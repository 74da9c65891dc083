import FlagSheet.Engine

namespace FlagSheet

inductive Step where
  | set (l : Location) (body : String)
  | remove (l : Location)
  | failNext (count : Nat) (fault : SourceFault)
  | getFeatures (q : Query)
  | isEnabled (names : List String) (q : Query)
  | deliver (body : Bytes) (signature : Option String)
  | together (qs : List Query)

inductive Reply where
  | done
  | features (enabled : Except QueryError SlugSet)
  | allowed (answer : Except QueryError Bool)
  | response (r : Response)
  | together (enabled : List (Except QueryError SlugSet))

structure Outcome where
  reply : Reply
  fetched : List Location
  calls : List String
  cached : Nat

namespace Engine

variable [Markdown] {P : Provider}

def act (e : Engine P) : Step → (Reply × List String) × Engine P
  | .set l body => ((.done, []), { e with source := e.source.set l body })
  | .remove l => ((.done, []), { e with source := e.source.remove l })
  | .failNext count fault => ((.done, []), { e with source := e.source.failNext count fault })
  | .getFeatures q =>
    let (answer, e) := e.getFeatures q
    ((.features answer.enabled, answer.calls), e)
  | .isEnabled names q =>
    let (answer, e) := e.getFeatures q
    ((.allowed (allowed names answer.enabled), answer.calls), e)
  | .deliver body signature =>
    let (response, e) := e.deliver body signature
    ((.response response, []), e)
  | .together qs =>
    let (answers, e) := e.getAllFeatures qs
    ((.together (answers.map (·.enabled)), answers.flatMap (·.calls)), e)

def step (e : Engine P) (s : Step) : Outcome × Engine P :=
  let ((reply, calls), e') := e.act s
  (⟨reply, e'.source.fetched.drop e.source.fetched.length, calls, P.size e'.cache⟩, e')

def run (e : Engine P) : List Step → List Outcome × Engine P
  | [] => ([], e)
  | s :: steps =>
    let (outcome, e) := e.step s
    let (outcomes, e) := e.run steps
    (outcome :: outcomes, e)

end Engine

end FlagSheet
