import FlagSheet.Config
import FlagSheet.Context

namespace FlagSheet

structure Query where
  project : Option String
  environment : Option String
  context : Context

namespace Query

def empty : Query := ⟨none, none, ∅⟩

instance : EmptyCollection Query := ⟨empty⟩

def fields : List String := ["project", "environment", "context"]

def ofJson? (j : Json) : Option Query := do
  match ← j.record? fields with
  | [project, environment, context] =>
    let context ← match context with
      | some c => Context.ofJson? c
      | none => some ∅
    return ⟨← Json.optionalString? project, ← Json.optionalString? environment, context⟩
  | _ => none

end Query

inductive QueryError where
  | projectNotFound (project : String)
  | ambiguousProject
  | missingEnvironment
  | load (e : LoadError)
deriving DecidableEq, Repr

namespace QueryError

def message : QueryError → String
  | projectNotFound project => "project not found: " ++ project
  | ambiguousProject => "project must be provided when multiple paths are configured"
  | missingEnvironment => "no environment requested and no default environment configured"
  | load e => e.message

def retryable : QueryError → Bool
  | load e => e.retryable
  | _ => false

end QueryError

namespace Config

/-- The project of this key. It may be left open where there is only one. -/
def resolveProject (c : Config) (key : Option String) : Except QueryError Project :=
  match key.bind Text.content? with
  | some key =>
    match c.project? key with
    | some p => .ok p
    | none => .error (.projectNotFound key)
  | none =>
    match c.projects with
    | [p] => .ok p
    | _ => .error .ambiguousProject

/-- The slug of the environment of this name, or else of the default environment. -/
def resolveEnvironment (c : Config) (name : Option String) : Except QueryError String :=
  match (name.bind Text.content?).or c.defaultEnvironment with
  | some name => .ok (slugify name)
  | none => .error .missingEnvironment

def resolve (c : Config) (q : Query) : Except QueryError (Project × String) :=
  match c.resolveProject q.project with
  | .error e => .error e
  | .ok p => (c.resolveEnvironment q.environment).map fun environment => (p, environment)

end Config

end FlagSheet
