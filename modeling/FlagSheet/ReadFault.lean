import FlagSheet.Bytes

namespace FlagSheet

inductive ReadFault where
  | notFound
  | isDirectory
  | notDirectory
  | notText
  | other (message : String)
deriving DecidableEq, Repr

def ReadFault.message : ReadFault → String
  | notFound => "No such file or directory (os error 2)"
  | isDirectory => "Is a directory (os error 21)"
  | notDirectory => "Not a directory (os error 20)"
  | notText => "stream did not contain valid UTF-8"
  | other message => message

def Bytes.asText : Except ReadFault Bytes → Except ReadFault String
  | .error fault => .error fault
  | .ok bytes =>
    match bytes.text? with
    | some text => .ok text
    | none => .error .notText

end FlagSheet
