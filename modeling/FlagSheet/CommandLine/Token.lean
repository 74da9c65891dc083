namespace FlagSheet.CommandLine

inductive Token where
  | separator
  | long (name : String) (value : Option String)
  | short (letter : Char) (rest : List Char)
  | plain
deriving DecidableEq, Repr

namespace Token

def ofChars : List Char → Token
  | ['-', '-'] => separator
  | '-' :: '-' :: cs =>
    match cs.dropWhile (· ≠ '=') with
    | _ :: value => long (String.ofList (cs.takeWhile (· ≠ '='))) (some (String.ofList value))
    | [] => long (String.ofList cs) none
  | '-' :: letter :: rest => short letter rest
  | _ => plain

def ofArgument (argument : String) : Token := ofChars argument.toList

/-- The value behind the letter of a switch, where an equals sign may stand between them. -/
def attached? : List Char → Option String
  | [] => none
  | '=' :: value => some (String.ofList value)
  | value => some (String.ofList value)

end Token

end FlagSheet.CommandLine
