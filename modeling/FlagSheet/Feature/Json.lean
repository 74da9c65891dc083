import FlagSheet.Feature.Basic
import FlagSheet.Json.Basic

namespace FlagSheet

namespace SlugMap

variable {α : Type}

def toJson (encode : α → Json) (m : SlugMap α) : Json :=
  .object (m.entries.map fun e => (e.1, encode e.2))

def readMembers? (read? : Json → Option α) : List (String × Json) → Option (List (String × α))
  | [] => some []
  | (key, v) :: members => do return (key, ← read? v) :: (← readMembers? read? members)

def ofJson? (read? : Json → Option α) : Json → Option (SlugMap α)
  | .object members => (readMembers? read? members).map ofList
  | _ => none

def ofOptionalJson? (read? : Json → Option α) : Option Json → Option (SlugMap α)
  | none => some empty
  | some j => ofJson? read? j

end SlugMap

namespace Condition

def fields : List String := ["name", "slug", "enabled"]

def toJson (c : Condition) : Json :=
  .object [("name", .string c.name), ("slug", .string c.slug), ("enabled", .bool c.enabled)]

def ofJson? (j : Json) : Option Condition := do
  match ← j.record? fields with
  | [some name, some slug, some enabled] =>
    return ⟨← name.string?, ← slug.string?, ← enabled.bool?⟩
  | _ => none

end Condition

namespace Environment

def fields : List String := ["name", "slug", "enabled", "conditions"]

def toJson (e : Environment) : Json :=
  .object [("name", .string e.name), ("slug", .string e.slug), ("enabled", .bool e.enabled),
    ("conditions", e.conditions.toJson Condition.toJson)]

def ofJson? (j : Json) : Option Environment := do
  match ← j.record? fields with
  | [some name, some slug, some enabled, conditions] =>
    return ⟨← name.string?, ← slug.string?, ← enabled.bool?,
      ← SlugMap.ofOptionalJson? Condition.ofJson? conditions⟩
  | _ => none

end Environment

namespace Feature

def fields : List String := ["name", "slug", "enabled", "environments", "conditions"]

def toJson (f : Feature) : Json :=
  .object [("name", .string f.name), ("slug", .string f.slug), ("enabled", .bool f.enabled),
    ("environments", f.environments.toJson Environment.toJson),
    ("conditions", f.conditions.toJson Condition.toJson)]

def ofJson? (j : Json) : Option Feature := do
  match ← j.record? fields with
  | [some name, some slug, some enabled, environments, conditions] =>
    return ⟨← name.string?, ← slug.string?, ← enabled.bool?,
      ← SlugMap.ofOptionalJson? Environment.ofJson? environments,
      ← SlugMap.ofOptionalJson? Condition.ofJson? conditions⟩
  | _ => none

end Feature

namespace FeatureSet

def toJson (fs : FeatureSet) : Json := SlugMap.toJson Feature.toJson fs

def ofJson? (j : Json) : Option FeatureSet := SlugMap.ofJson? Feature.ofJson? j

end FeatureSet

end FlagSheet
