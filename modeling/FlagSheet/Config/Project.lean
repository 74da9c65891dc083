import FlagSheet.Config.Error
import FlagSheet.Predicate
import FlagSheet.Source

namespace FlagSheet

structure Project where
  chosenKey : Option String
  repository : String
  issue : UInt64
  conditions : Registry

namespace Project

open Text

/-- The spelling in which keys and repositories are kept: small letters, and no white space at the ends. -/
def spelling (s : String) : String := String.ofList (lowercase (trim s.toList))

def ofIssue (repository : String) (issue : UInt64) : Project := ⟨none, spelling repository, issue, ∅⟩

def withKey (p : Project) (key : String) : Project := { p with chosenKey := some (spelling key) }

def withCondition (p : Project) (predicate : Predicate) : Project :=
  { p with conditions := p.conditions.register predicate }

/-- The key of a project. It is made of the repository and the issue unless another has been chosen. -/
def key (p : Project) : String :=
  p.chosenKey.getD (p.repository ++ "/" ++ toString p.issue.toNat)

def owner (p : Project) : List Char := p.repository.toList.takeWhile (· ≠ '/')

def name (p : Project) : List Char := (p.repository.toList.dropWhile (· ≠ '/')).drop 1

def location (p : Project) : Location := ⟨String.ofList p.owner, String.ofList p.name, p.issue⟩

/-- The issue is the one of this project, in a repository whose name may be written with other letters of ASCII
than here. -/
def isAt (p : Project) (repository : String) (issue : UInt64) : Bool :=
  p.issue = issue && sameAscii p.repository.toList (trim repository.toList)

def hasRepository (p : Project) : Bool := !p.owner.isEmpty && !p.name.isEmpty && !p.name.contains '/'

def fault? (p : Project) : Option ConfigError :=
  if p.hasRepository then
    if p.issue = 0 then some (.invalidIssue p.repository p.issue) else none
  else some (.invalidRepository p.repository)

def describe (p : Project) : String :=
  "PathConfig \x7b project: " ++ quoted p.key ++ ", repository: " ++ quoted p.repository ++
    ", issue: " ++ toString p.issue.toNat ++ ", conditions: " ++ p.conditions.describe ++ " \x7d"

end Project

end FlagSheet
