import FlagSheet.Text.Within

namespace FlagSheet.Text

/-- Bounds of the code points with the property `White_Space`. -/
def blankBounds : List Nat :=
  [
    0x9, 0xE, 0x20, 0x21, 0x85, 0x86, 0xA0, 0xA1, 0x1680, 0x1681, 0x2000, 0x200B, 0x2028,
    0x202A, 0x202F, 0x2030, 0x205F, 0x2060, 0x3000, 0x3001]

def isBlank (c : Char) : Bool := within blankBounds c.toNat

def trimStart (cs : List Char) : List Char := cs.dropWhile isBlank

def trimEnd (cs : List Char) : List Char := (cs.reverse.dropWhile isBlank).reverse

def trim (cs : List Char) : List Char := trimEnd (trimStart cs)

def trimmed (s : String) : String := String.ofList (trim s.toList)

def allBlank (s : String) : Bool := s.toList.all isBlank

def content? (s : String) : Option String := if allBlank s then none else some (trimmed s)

/-- What stands before the first line feed; a carriage return before it is kept. -/
def firstLine (cs : List Char) : List Char := cs.takeWhile (· ≠ '\n')

theorem isBlank_lineFeed : isBlank '\n' = true := rfl

theorem isBlank_carriageReturn : isBlank '\r' = true := rfl

end FlagSheet.Text
