import FlagSheet.Json.Basic
import FlagSheet.Text.Blank

namespace FlagSheet

structure Secret where
  expose : String
deriving DecidableEq

namespace Secret

def redacted : String := "[REDACTED]"

def isBlank (s : Secret) : Bool := Text.allBlank s.expose

def describe (_ : Secret) : String := "Secret(\"" ++ redacted ++ "\")"

def describeLines (_ : Secret) : String := "Secret(\n    \"" ++ redacted ++ "\",\n)"

instance : ToString Secret := ⟨fun _ => redacted⟩

instance : Repr Secret := ⟨fun s _ => s.describe⟩

/-- The JSON form is not that of the text, so that a secret cannot be read back from it. -/
def toJson (_ : Secret) : Json := .string redacted

def ofJson? (j : Json) : Option Secret := j.string?.map Secret.mk

end Secret

end FlagSheet
