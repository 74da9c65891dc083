import FlagSheet.Json.Record

namespace FlagSheet

structure IssueEvent where
  action : String
  repository : String
  issue : UInt64
  body : Option String
deriving DecidableEq, Repr

namespace IssueEvent

open Json (Fault Reading)

structure IssueFields where
  number : Option UInt64
  body : Option (Option String)

def issueMember (s : IssueFields) (name : String) (bs : Bytes) : Reading IssueFields :=
  if name = "number" then
    (Json.readField s.number Json.readNatural bs).map fun r => ({ s with number := some r.1 }, r.2)
  else if name = "body" then
    (Json.readField s.body Json.readOptionalText bs).map fun r => ({ s with body := some r.1 }, r.2)
  else Json.skipMember s bs

abbrev Issue := UInt64 × Option String

def issueFromObject (bs : Bytes) : Except Fault (Issue × Bytes) := do
  let (s, rest) ← Json.readObject issueMember ⟨none, none⟩ bs
  return ((← Json.required s.number, s.body.getD none), rest)

def issueFromArray (bs : Bytes) : Except Fault (Issue × Bytes) := do
  let (number, rest) ← Json.readItem true Json.readNatural bs
  let number ← Json.required number
  let (body, rest) ← Json.readItem false Json.readOptionalText rest
  return ((number, body.getD none), rest)

def readIssue : Bytes → Reading Issue := Json.readRecord issueFromObject issueFromArray

def repositoryMember (s : Option String) (name : String) (bs : Bytes) : Reading (Option String) :=
  if name = "full_name" then (Json.readField s Json.readText bs).map fun r => (some r.1, r.2)
  else Json.skipMember s bs

def repositoryFromObject (bs : Bytes) : Except Fault (String × Bytes) := do
  let (s, rest) ← Json.readObject repositoryMember none bs
  return (← Json.required s, rest)

def repositoryFromArray (bs : Bytes) : Except Fault (String × Bytes) := do
  let (name, rest) ← Json.readItem true Json.readText bs
  return (← Json.required name, rest)

def readRepository : Bytes → Reading String :=
  Json.readRecord repositoryFromObject repositoryFromArray

structure Fields where
  action : Option String
  issue : Option Issue
  repository : Option String

def member (s : Fields) (name : String) (bs : Bytes) : Reading Fields :=
  if name = "action" then
    (Json.readField s.action Json.readText bs).map fun r => ({ s with action := some r.1 }, r.2)
  else if name = "issue" then
    (Json.readField s.issue readIssue bs).map fun r => ({ s with issue := some r.1 }, r.2)
  else if name = "repository" then
    (Json.readField s.repository readRepository bs).map fun r =>
      ({ s with repository := some r.1 }, r.2)
  else Json.skipMember s bs

def ofParts (action : Option String) (issue : Issue) (repository : String) : IssueEvent :=
  ⟨action.getD "", repository, issue.1, issue.2⟩

def fromObject (bs : Bytes) : Except Fault (IssueEvent × Bytes) := do
  let (s, rest) ← Json.readObject member ⟨none, none, none⟩ bs
  let issue ← Json.required s.issue
  let repository ← Json.required s.repository
  return (ofParts s.action issue repository, rest)

def fromArray (bs : Bytes) : Except Fault (IssueEvent × Bytes) := do
  let (action, rest) ← Json.readItem true Json.readText bs
  let (issue, rest) ← Json.readItem action.isNone readIssue rest
  let issue ← Json.required issue
  let (repository, rest) ← Json.readItem false readRepository rest
  return (ofParts action issue (← Json.required repository), rest)

def toJson (e : IssueEvent) : Json :=
  .object [("action", .string e.action), ("repository_full_name", .string e.repository),
    ("issue_number", .number (.natural e.issue)), ("issue_body", Json.ofOptional e.body)]

def parse (body : Bytes) : Except Fault IssueEvent :=
  Json.finish (Json.readRecord fromObject fromArray body)

end IssueEvent

end FlagSheet
