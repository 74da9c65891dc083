import FlagSheet.Config

namespace FlagSheet

structure Surroundings where
  setting? : String → Option String
  read : String → Except ReadFault Bytes

namespace Surroundings

def dropLineFeed (s : String) : String :=
  match s.toList.reverse with
  | '\n' :: cs => String.ofList cs.reverse
  | _ => s

/-- The secret in a variable. Where a second variable, with `_FILE` behind the name, is set, it is the secret in the
file under that path, without the line feed at its end. -/
def secret? (s : Surroundings) (name : String) : Except SecretError (Option Secret) :=
  let fileName := name ++ "_FILE"
  match s.setting? fileName with
  | none => .ok ((s.setting? name).map Secret.mk)
  | some path =>
    if path = "" then .error (.emptyPath fileName)
    else
      match Bytes.asText (s.read path) with
      | .error fault => .error (.unreadable path fault)
      | .ok text => .ok (some ⟨dropLineFeed text⟩)

def first? (s : Surroundings) (names : List String) : Option String :=
  names.findSome? fun name => (s.setting? name).bind Text.content?

end Surroundings

namespace Settings

def secretVariable : String := "FLAGDOWN_WEBHOOK_SECRET"

def environmentVariables : List String := ["FLAGDOWN_ENVIRONMENT", "APP_ENV", "ENV", "STAGE"]

def ofSurroundings (s : Surroundings) : Except ConfigError Settings :=
  match s.secret? secretVariable with
  | .error e => .error (.secret e)
  | .ok secret => .ok ⟨[], secret, s.first? environmentVariables, false⟩

end Settings

end FlagSheet
