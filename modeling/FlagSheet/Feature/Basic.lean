import FlagSheet.Slug
import FlagSheet.SlugMap

namespace FlagSheet

/-- A condition. When it is armed, a predicate registered under its slug has to hold. -/
structure Condition where
  name : String
  slug : String
  enabled : Bool
deriving DecidableEq

def Condition.armed (c : Condition) : Bool := c.enabled

def Condition.named (name : String) (enabled : Bool) : Condition := ⟨name, slugify name, enabled⟩

structure Environment where
  name : String
  slug : String
  enabled : Bool
  conditions : SlugMap Condition
deriving DecidableEq

namespace Environment

def named (name : String) (enabled : Bool) : Environment := ⟨name, slugify name, enabled, ∅⟩

def withCondition (e : Environment) (c : Condition) : Environment :=
  { e with conditions := e.conditions.insert c.slug c }

end Environment

structure Feature where
  name : String
  slug : String
  /-- Decides where a feature has no environments. -/
  enabled : Bool
  environments : SlugMap Environment
  conditions : SlugMap Condition
deriving DecidableEq

namespace Feature

def named (name : String) (enabled : Bool) : Feature := ⟨name, slugify name, enabled, ∅, ∅⟩

def withEnvironment (f : Feature) (e : Environment) : Feature :=
  { f with environments := f.environments.insert e.slug e }

def withCondition (f : Feature) (c : Condition) : Feature :=
  { f with conditions := f.conditions.insert c.slug c }

def hasEnvironments (f : Feature) : Bool := !f.environments.isEmpty

def armed (f : Feature) : List Condition :=
  (f.conditions.values ++ f.environments.values.flatMap (·.conditions.values)).filter (·.armed)

end Feature

abbrev FeatureSet := SlugMap Feature

namespace FeatureSet

def add (fs : FeatureSet) (f : Feature) : FeatureSet := SlugMap.insert fs f.slug f

def ofFeatures (features : List Feature) : FeatureSet := features.foldl add ∅

end FeatureSet

end FlagSheet
