import FlagSheet.ReadFault

namespace FlagSheet

inductive SecretError where
  | emptyPath (variableName : String)
  | unreadable (path : String) (fault : ReadFault)
deriving DecidableEq, Repr

def SecretError.message : SecretError → String
  | emptyPath variableName => "secret file path in " ++ variableName ++ " is empty"
  | unreadable path fault => "failed to read secret file at " ++ path ++ ": " ++ fault.message

inductive ConfigError where
  | invalidRepository (repository : String)
  | invalidIssue (repository : String) (issue : UInt64)
  | duplicateProject (key : String)
  | noProjects
  | secret (e : SecretError)
deriving DecidableEq, Repr

def ConfigError.message : ConfigError → String
  | invalidRepository repository => "invalid repository '" ++ repository ++ "', expected owner/repo"
  | invalidIssue repository issue =>
    "invalid issue number " ++ toString issue.toNat ++ " for " ++ repository
  | duplicateProject key => "duplicate project key: " ++ key
  | noProjects => "at least one path must be configured"
  | secret e => "configuration error: " ++ e.message

end FlagSheet
