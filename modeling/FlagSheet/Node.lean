import FlagSheet.Markdown
import FlagSheet.Text.Blank

namespace FlagSheet

inductive NodeKind where
  | heading
  | list
  | listItem
  | paragraph
  | other
deriving DecidableEq, Repr, Inhabited

structure Node where
  kind : NodeKind
  depth : UInt8
  raw : String
  children : List Node
deriving Repr, Inhabited

namespace Node

open Text

def leaf (kind : NodeKind) (depth : UInt8) (raw : String) : Node := ⟨kind, depth, trimmed raw, []⟩

def heading (depth : UInt8) (raw : String) : Node := leaf .heading depth raw

def item (raw : String) : Node := leaf .listItem 0 raw

def paragraph (raw : String) : Node := leaf .paragraph 0 raw

def other (raw : String) : Node := leaf .other 0 raw

def list (items : List Node) : Node :=
  ⟨.list, 0, "\n".intercalate (items.map Node.raw), items⟩

def isHeading (n : Node) (depth : UInt8) : Bool := n.kind = .heading && n.depth = depth

/-- A heading's line without the `#` that close it. They close it only when a space stands before them, or
nothing at all. -/
def dropClosing (cs : List Char) : List Char :=
  let text := (cs.reverse.dropWhile (· = '#')).reverse
  if text.length < cs.length && (text.isEmpty || text.getLast? = some ' ') then text else cs

def headingChars (cs : List Char) : List Char :=
  trim (dropClosing ((trim (firstLine cs)).dropWhile (· = '#')))

def headingText (n : Node) : String := String.ofList (headingChars n.raw.toList)

structure Scan where
  nodes : List Node
  openList : Option (List Node)
  nesting : Nat

namespace Scan

open Markdown

def empty : Scan := ⟨[], none, 0⟩

def push (s : Scan) (n : Node) : Scan := { s with nodes := s.nodes ++ [n] }

def begin (s : Scan) (tag : Tag) (raw : String) : Scan :=
  match tag with
  | .heading level => s.push (.heading level.depth raw)
  | .list => { s with openList := some [] }
  | .paragraph => s.push (.paragraph raw)
  | _ => s.push (.other raw)

def start (s : Scan) (tag : Tag) (raw : String) : Scan :=
  let s' :=
    if s.nesting = 0 then s.begin tag raw
    else if s.nesting = 1 && tag = .item then { s with openList := s.openList.map (· ++ [.item raw]) }
    else s
  { s' with nesting := s'.nesting + 1 }

def stop (s : Scan) : Scan :=
  let s' := { s with nesting := s.nesting - 1 }
  if s'.nesting = 0 then
    match s'.openList with
    | some items => { s'.push (.list items) with openList := none }
    | none => s'
  else s'

def step (s : Scan) (event : Event) (raw : String) : Scan :=
  match event with
  | .start tag => s.start tag raw
  | .stop => s.stop
  | .atom .rule | .atom .html => if s.nesting = 0 then s.push (.other raw) else s
  | .atom .other => s

def run {text : List Char} (s : Scan) (events : List (Event × Span text)) : Scan :=
  events.foldl (fun s e => s.step e.1 e.2.raw) s

end Scan

/-- The blocks at the top of a text with these events. -/
def tokenize {text : List Char} (events : List (Markdown.Event × Span text)) : List Node :=
  (Scan.empty.run events).nodes

def ofText [Markdown] (text : String) : List Node := tokenize (Markdown.events text.toList)

end Node

end FlagSheet
