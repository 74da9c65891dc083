import FlagSheet.Checkbox
import FlagSheet.Text.Alphanumeric
import FlagSheet.Text.Lowercase

namespace FlagSheet.Slug

open Text

def stripMarkup (cs : List Char) : List Char :=
  let text := trimStart ((trim cs).dropWhile (· = '#'))
  ((Checkbox.split text).map (·.2)).getD text

def isSeparator (c : Char) : Bool := isBlank c || c = '-' || c = '_'

/-- The letters and digits of a text, with one hyphen wherever separators stand between two of them;
all else is dropped. `started` once a character has been kept, `pending` when a separator has been met
since the last one. -/
def join (started pending : Bool) : List Char → List Char
  | [] => []
  | c :: cs =>
    if isSeparator c then join started true cs
    else if isAlphanumeric c then
      if started && pending then '-' :: c :: join true false cs else c :: join true false cs
    else join started pending cs

def ofChars (cs : List Char) : List Char := join false false ((stripMarkup cs).flatMap lower)

end FlagSheet.Slug

namespace FlagSheet

def slugify (name : String) : String := String.ofList (Slug.ofChars name.toList)

end FlagSheet
