import FlagSheet.Text.Blank

namespace FlagSheet.Checkbox

open Text

def isBullet (c : Char) : Bool := c = '-' || c = '*' || c = '+'

def dropBullet : List Char → Option (List Char)
  | [] => some []
  | c :: rest =>
    if isBullet c then
      match rest with
      | ' ' :: _ => some (trimStart rest)
      | '\t' :: _ => some (trimStart rest)
      | _ => none
    else some (c :: rest)

def mark : List Char → Option (Bool × List Char)
  | '[' :: ' ' :: ']' :: rest => some (false, rest)
  | '[' :: 'x' :: ']' :: rest => some (true, rest)
  | '[' :: 'X' :: ']' :: rest => some (true, rest)
  | _ => none

def endsWord (cs : List Char) : Bool := cs.head?.all isBlank

/-- The checked state of an item and the text behind its mark, none without a mark. -/
def split (cs : List Char) : Option (Bool × List Char) := do
  let item ← dropBullet (trimStart cs)
  let (checked, rest) ← mark item
  if endsWord rest then some (checked, trimStart rest) else none

def state (s : String) : Option Bool := (split s.toList).map (·.1)

end FlagSheet.Checkbox
