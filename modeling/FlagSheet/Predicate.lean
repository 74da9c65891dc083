import FlagSheet.Context
import FlagSheet.Text.Quoted

namespace FlagSheet

/-- A check of a context. It carries the name it has been registered under. -/
structure Predicate where
  name : String
  holds : Context → Bool

abbrev Registry := SlugMap Predicate

namespace Registry

def register (r : Registry) (p : Predicate) : Registry := SlugMap.insert r (slugify p.name) p

def ofPredicates (ps : List Predicate) : Registry := ps.foldl register ∅

def names (r : Registry) (slugs : List String) : List String :=
  slugs.filterMap fun slug => (SlugMap.get? r slug).map (·.name)

def describe (r : Registry) : String :=
  "ConditionRegistry \x7b conditions: [" ++ ", ".intercalate ((SlugMap.keys r).map Text.quoted) ++
    "] \x7d"

end Registry

end FlagSheet
