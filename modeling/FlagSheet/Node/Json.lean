import FlagSheet.Json.Basic
import FlagSheet.Node

namespace FlagSheet

namespace NodeKind

def name : NodeKind → String
  | heading => "heading"
  | list => "list"
  | listItem => "list_item"
  | paragraph => "paragraph"
  | other => "other"

def all : List NodeKind := [heading, list, listItem, paragraph, other]

def ofName? (s : String) : Option NodeKind := all.find? (·.name = s)

/-- A kind is read from its name, or from an object with the name as its one member and null as value. -/
def ofJson? : Json → Option NodeKind
  | .string s => ofName? s
  | .object [(s, .null)] => ofName? s
  | _ => none

end NodeKind

namespace Node

mutual

def toJson : Node → Json
  | ⟨kind, depth, raw, children⟩ =>
    .object ([("kind", .string kind.name), ("depth", .ofNat depth.toNat), ("raw", .string raw)] ++
      match children with
      | [] => []
      | c :: cs => [("children", .array (toJson c :: toJsonAll cs))])

def toJsonAll : List Node → List Json
  | [] => []
  | n :: ns => n.toJson :: toJsonAll ns

end

def depthOf? : Json → Option UInt8
  | .number (.natural n) => if n.toNat < 256 then some (UInt8.ofNat n.toNat) else none
  | _ => none

def build? (kind depth raw : Option Json) (children : Option (List Node)) : Option Node := do
  return ⟨← NodeKind.ofJson? (← kind), ← depthOf? (← depth), ← (← raw).string?, ← children⟩

mutual

/-- Reads a node; its text is taken as it is. -/
def ofJson? : Json → Option Node
  | .object members =>
    build? (Json.get? members "kind") (Json.get? members "depth") (Json.get? members "raw")
      (childrenOf? members)
  | .array [kind, depth, raw] => build? (some kind) (some depth) (some raw) (some [])
  | .array [kind, depth, raw, .array items] =>
    build? (some kind) (some depth) (some raw) (ofJsonAll? items)
  | _ => none

def childrenOf? : List (String × Json) → Option (List Node)
  | [] => some []
  | (name, v) :: members =>
    if name = "children" then
      match v with
      | .array items => ofJsonAll? items
      | _ => none
    else childrenOf? members

def ofJsonAll? : List Json → Option (List Node)
  | [] => some []
  | x :: xs => do return (← ofJson? x) :: (← ofJsonAll? xs)

end

def listOfJson? : Json → Option (List Node)
  | .array items => ofJsonAll? items
  | _ => none

end Node

end FlagSheet
