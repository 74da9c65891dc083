import FlagSheet.Feature.Json

namespace FlagSheet

structure Context where
  userId : Option String
  attributes : SlugMap Json

namespace Context

def empty : Context := ⟨none, ∅⟩

instance : EmptyCollection Context := ⟨empty⟩

def withUserId (c : Context) (id : String) : Context := { c with userId := some id }

def withAttribute (c : Context) (key : String) (v : Json) : Context :=
  { c with attributes := c.attributes.insert key v }

def attribute? (c : Context) (key : String) : Option Json := c.attributes.get? key

def fields : List String := ["user_id", "attributes"]

def toJson (c : Context) : Json :=
  .object ((match c.userId with
    | some id => [("user_id", .string id)]
    | none => []) ++ [("attributes", c.attributes.toJson id)])

def ofJson? (j : Json) : Option Context := do
  match ← j.record? fields with
  | [userId, attributes] =>
    return ⟨← Json.optionalString? userId, ← SlugMap.ofOptionalJson? some attributes⟩
  | _ => none

end Context

end FlagSheet
