import FlagSheet.Cache
import FlagSheet.Engine.Query
import FlagSheet.Evaluation
import FlagSheet.Webhook

namespace FlagSheet

/-- A cache of any making, which may do whatever it likes with the calls that it is given. -/
structure Provider where
  State : Type
  get : State → Request Source LoadError FeatureSet → Source → Except LoadError FeatureSet × State × Source
  getAll : State → List (Request Source LoadError FeatureSet) → Source →
    List (Except LoadError FeatureSet) × State × Source
  invalidate : State → String → State
  size : State → Nat

abbrev Cache.provider : Provider := ⟨Cache FeatureSet, get, getAll, invalidate, size⟩

/-- An engine that has been handed a cache. Without a secret it does without. -/
structure Engine (P : Provider := Cache.provider) where
  config : Config
  cache : P.State
  source : Source

structure Answer where
  enabled : Except QueryError SlugSet
  calls : List String

namespace Engine

variable {P : Provider}

def ofConfig (config : Config) (source : Source) : Engine := ⟨config, .memory ∅, source⟩

def caches (e : Engine P) : Bool := e.config.secret.isSome

def load (e : Engine P) (r : Request Source LoadError FeatureSet) : Except LoadError FeatureSet × Engine P :=
  if e.caches then
    let (loaded, cache, source) := P.get e.cache r e.source
    (loaded, { e with cache, source })
  else
    let (loaded, source) := r.load e.source
    (loaded, { e with source })

def loadAll (e : Engine P) (rs : List (Request Source LoadError FeatureSet)) :
    List (Except LoadError FeatureSet) × Engine P :=
  if e.caches then
    let (loaded, cache, source) := P.getAll e.cache rs e.source
    (loaded, { e with cache, source })
  else
    let (loaded, source) := Cache.loadAll rs e.source
    (loaded, { e with source })

/-- The call for the features of a project in an environment. They are tagged by the project alone. -/
def request [Markdown] (p : Project) (environment : String) : Request Source LoadError FeatureSet :=
  ⟨⟨p.key, environment⟩, [p.key], Source.load p.location⟩

def answer (p : Project) (environment : String) (c : Context) :
    Except LoadError FeatureSet → Answer
  | .error e => ⟨.error (.load e), []⟩
  | .ok features =>
    let outcome := features.evaluate environment c p.conditions
    ⟨.ok outcome.enabled, p.conditions.names outcome.calls⟩

def getFeatures [Markdown] (e : Engine P) (q : Query) : Answer × Engine P :=
  match e.config.resolve q with
  | .error fault => (⟨.error fault, []⟩, e)
  | .ok (p, environment) =>
    let (loaded, e) := e.load (request p environment)
    (answer p environment q.context loaded, e)

def requests [Markdown] (config : Config) (qs : List Query) : List (Request Source LoadError FeatureSet) :=
  qs.filterMap fun q => (config.resolve q).toOption.map fun (p, environment) => request p environment

def answers (config : Config) : List Query → List (Except LoadError FeatureSet) → List Answer
  | [], _ => []
  | q :: qs, loaded =>
    match config.resolve q with
    | .error fault => ⟨.error fault, []⟩ :: answers config qs loaded
    | .ok (p, environment) =>
      match loaded with
      | [] => []
      | features :: loaded => answer p environment q.context features :: answers config qs loaded

def getAllFeatures [Markdown] (e : Engine P) (qs : List Query) : List Answer × Engine P :=
  let (loaded, e') := e.loadAll (requests e.config qs)
  (answers e.config qs loaded, e')

/-- Whether all features of these names are enabled. Where there is no document, none is. -/
def allowed (names : List String) : Except QueryError SlugSet → Except QueryError Bool
  | .ok enabled => .ok (enabled.allows names)
  | .error (.load .noDocument) => .ok false
  | .error e => .error e

def projectAt? (e : Engine P) (repository : String) (issue : UInt64) : Option Project :=
  e.config.projects.find? (·.isAt repository issue)

def announce (e : Engine P) (event : IssueEvent) : Engine P :=
  match e.projectAt? event.repository event.issue with
  | some p => if e.caches then { e with cache := P.invalidate e.cache p.key } else e
  | none => e

end Engine

inductive Response where
  | disabled
  | unauthorized
  | badPayload
  | accepted
deriving DecidableEq, Repr

namespace Response

def status : Response → Nat
  | disabled | accepted => 200
  | unauthorized => 401
  | badPayload => 400

def body : Response → Json
  | disabled => .object [("error", .string "webhook disabled")]
  | unauthorized => .object [("error", .string "invalid signature")]
  | badPayload => .object [("error", .string "invalid payload")]
  | accepted => .object [("success", .bool true)]

def ofRefusal : Webhook.Refusal → Response
  | .missingSignature | .invalidSignature => unauthorized
  | .invalidPayload _ => badPayload

end Response

def Engine.deliver {P : Provider} (e : Engine P) (body : Bytes) (signature : Option String) : Response × Engine P :=
  match e.config.secret with
  | none => (.disabled, e)
  | some secret =>
    match Webhook.receive secret.expose body signature with
    | .error refusal => (.ofRefusal refusal, e)
    | .ok event => (.accepted, e.announce event)

end FlagSheet
