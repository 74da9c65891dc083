import FlagSheet.Predicate

namespace FlagSheet

namespace Feature

/-- The conditions that gate a feature in the environment under this slug, none where it is disabled. -/
def activeConditions? (f : Feature) (environment : String) : Option (List Condition) :=
  if f.hasEnvironments then
    match f.environments.get? environment with
    | some e => if e.enabled then some (f.conditions.values ++ e.conditions.values) else none
    | none => none
  else if f.enabled then some f.conditions.values
  else none

end Feature

namespace Registry

/-- Consults the predicate of every armed condition, also when one before it has failed. Gives whether all of
them hold, and the slugs of the conditions whose predicates were called. A condition without a predicate
does not hold. -/
def consult (r : Registry) (c : Context) : List Condition → Bool × List String
  | [] => (true, [])
  | condition :: rest =>
    let (held, calls) := consult r c rest
    if condition.armed then
      match SlugMap.get? r condition.slug with
      | some p => (p.holds c && held, condition.slug :: calls)
      | none => (false, calls)
    else (held, calls)

end Registry

structure Evaluation where
  enabled : SlugSet
  calls : List String

namespace Evaluation

def candidates (environment : String) (fs : List Feature) : List (Feature × List Condition) :=
  fs.filterMap fun f => (f.activeConditions? environment).map fun conditions => (f, conditions)

def verdicts (r : Registry) (c : Context) (candidates : List (Feature × List Condition)) : List (Bool × List String) :=
  candidates.map fun candidate => r.consult c candidate.2

def admitted (candidates : List (Feature × List Condition)) (verdicts : List (Bool × List String)) : List String :=
  (candidates.zip verdicts).filterMap fun (candidate, verdict) =>
    if verdict.1 then some candidate.1.slug else none

end Evaluation

/-- Evaluates a feature set in the environment of this name. A feature without environments is decided by its
own state, any other by the state of the environment. On top of that every armed condition needs a registered
predicate that holds. -/
def FeatureSet.evaluate (fs : FeatureSet) (environment : String) (c : Context) (r : Registry) :
    Evaluation :=
  let candidates := Evaluation.candidates (slugify environment) (SlugMap.values fs)
  let verdicts := Evaluation.verdicts r c candidates
  ⟨SlugSet.ofList (Evaluation.admitted candidates verdicts), verdicts.flatMap (·.2)⟩

def SlugSet.allows (enabled : SlugSet) (names : List String) : Bool :=
  !names.isEmpty && names.all fun name => SlugMap.contains enabled (slugify name)

end FlagSheet
