import FlagSheet.Feature.Basic
import FlagSheet.Json.Basic

namespace FlagSheet

structure FeatureRow where
  feature : String
  slug : String
  featureEnabled : Bool
  environment : Option (String × Bool)
  condition : Option (String × Bool)
deriving DecidableEq, Repr

namespace FeatureRow

def ofFeature (f : Feature) : FeatureRow := ⟨f.name, f.slug, f.enabled, none, none⟩

def inEnvironment (r : FeatureRow) (e : Environment) : FeatureRow :=
  { r with environment := some (e.slug, e.enabled) }

def withCondition (r : FeatureRow) (c : Condition) : FeatureRow :=
  { r with condition := some (c.slug, c.enabled) }

private def optional (name : String) (state : String) : Option (String × Bool) → List (String × Json)
  | none => []
  | some (slug, enabled) => [(name, .string slug), (state, .bool enabled)]

def toJson (r : FeatureRow) : Json :=
  .object ([("feature", .string r.feature), ("slug", .string r.slug),
    ("feature_enabled", .bool r.featureEnabled)] ++
    optional "environment" "environment_enabled" r.environment ++
    optional "condition" "condition_enabled" r.condition)

end FeatureRow

def Environment.rows (row : FeatureRow) (e : Environment) : List FeatureRow :=
  let row := row.inEnvironment e
  if e.conditions.isEmpty then [row] else e.conditions.values.map row.withCondition

def Feature.rows (f : Feature) : List FeatureRow :=
  let row := FeatureRow.ofFeature f
  if f.conditions.isEmpty && f.environments.isEmpty then [row]
  else f.conditions.values.map row.withCondition ++ f.environments.values.flatMap (·.rows row)

/-- A row for each condition of a feature and of an environment, and one for an environment or a feature that
has nothing to show otherwise. -/
def FeatureSet.flatten (fs : FeatureSet) : List FeatureRow :=
  (SlugMap.values fs).flatMap Feature.rows

end FlagSheet
