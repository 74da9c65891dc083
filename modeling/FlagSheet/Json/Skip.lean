import FlagSheet.Json.Reader

namespace FlagSheet.Json

inductive Nest where
  | list
  | object
deriving DecidableEq, Repr

inductive NumberPart where
  | minus
  | zero
  | digits
  | point
  | fraction
  | mark
  | sign
  | exponent
deriving DecidableEq, Repr

def NumberPart.complete : NumberPart → Bool
  | zero | digits | fraction | exponent => true
  | minus | point | mark | sign => false

def NumberPart.next? (p : NumberPart) (b : UInt8) : Option NumberPart :=
  let digit := isDigitByte b
  let letter := b = 0x65 || b = 0x45
  match p with
  | minus => if b = 0x30 then some zero else if digit then some digits else none
  | zero => if b = 0x2e then some point else if letter then some mark else none
  | digits =>
    if digit then some digits else if b = 0x2e then some point else if letter then some mark else none
  | point => if digit then some fraction else none
  | fraction => if digit then some fraction else if letter then some mark else none
  | mark => if b = 0x2b || b = 0x2d then some sign else if digit then some exponent else none
  | sign => if digit then some exponent else none
  | exponent => if digit then some exponent else none

inductive SkipMode where
  | value
  | listStart
  | objectStart
  | name
  | colon
  | after
  | string (isName : Bool)
  | escape (isName : Bool)
  | word (left : List Char)
  | number (part : NumberPart)

namespace SkipMode

def startValue (stack : List Nest) (b : UInt8) : Except Fault (SkipMode × List Nest) :=
  match Char.ofNat b.toNat with
  | 'n' => .ok (word ['u', 'l', 'l'], stack)
  | 't' => .ok (word ['r', 'u', 'e'], stack)
  | 'f' => .ok (word ['a', 'l', 's', 'e'], stack)
  | '"' => .ok (string false, stack)
  | '[' => .ok (listStart, .list :: stack)
  | '{' => .ok (objectStart, .object :: stack)
  | '-' => .ok (number .minus, stack)
  | '0' => .ok (number .zero, stack)
  | _ => if isDigitByte b then .ok (number .digits, stack) else .error .malformed

def continueAfter (stack : List Nest) (b : UInt8) : Except Fault (SkipMode × List Nest) :=
  if isSpaceByte b then .ok (after, stack)
  else
    match stack, Char.ofNat b.toNat with
    | .list :: _, ',' => .ok (value, stack)
    | .list :: outer, ']' => .ok (after, outer)
    | .object :: _, ',' => .ok (name, stack)
    | .object :: outer, '}' => .ok (after, outer)
    | _, _ => .error .malformed

/-- The mode that a byte leads to, with the arrays and objects open then. None when the value has ended
before this byte. -/
def next (m : SkipMode) (stack : List Nest) (b : UInt8) :
    Except Fault (Option (SkipMode × List Nest)) :=
  match m with
  | value => if isSpaceByte b then .ok (some (value, stack)) else (startValue stack b).map some
  | listStart =>
    if isSpaceByte b then .ok (some (listStart, stack))
    else if b = 0x5d then .ok (some (after, stack.tail))
    else (startValue stack b).map some
  | objectStart =>
    if isSpaceByte b then .ok (some (objectStart, stack))
    else if b = 0x7d then .ok (some (after, stack.tail))
    else if b = 0x22 then .ok (some (string true, stack))
    else .error .malformed
  | name =>
    if isSpaceByte b then .ok (some (name, stack))
    else if b = 0x22 then .ok (some (string true, stack))
    else .error .malformed
  | colon =>
    if isSpaceByte b then .ok (some (colon, stack))
    else if b = 0x3a then .ok (some (value, stack))
    else .error .malformed
  | after => (continueAfter stack b).map some
  | string isName =>
    if b = 0x22 then .ok (some (if isName then colon else after, stack))
    else if b = 0x5c then .ok (some (escape isName, stack))
    else if b < 0x20 then .error .malformed
    else .ok (some (string isName, stack))
  | escape isName =>
    if (simpleEscape? b).isSome then .ok (some (string isName, stack)) else .error .malformed
  | word [] => .error .malformed
  | word [c] => if b = byte c then .ok (some (after, stack)) else .error .malformed
  | word (c :: cs) => if b = byte c then .ok (some (word cs, stack)) else .error .malformed
  | number part =>
    match part.next? b with
    | some part => .ok (some (number part, stack))
    | none =>
      if !part.complete || (part = .zero && isDigitByte b) then .error .malformed
      else if stack.isEmpty then .ok none
      else (continueAfter stack b).map some

def atEnd (m : SkipMode) (stack : List Nest) : Except Fault Bytes :=
  match m with
  | number part =>
    if !part.complete then .error .malformed
    else if stack.isEmpty then .ok []
    else .error .truncated
  | _ => .error .truncated

end SkipMode

/-- Gives the bytes behind the value. It has to be well-formed JSON, but numbers may be out of range,
surrogates need no pairs and texts need not be UTF-8. Values may have any depth. -/
def skipFrom : SkipMode → List Nest → Bytes → Except Fault Bytes
  | .after, [], bs => .ok bs
  | m, stack, [] => m.atEnd stack
  | .escape isName, stack, 0x75 :: a :: b :: c :: d :: rest =>
    if (unit? a b c d).isSome then skipFrom (.string isName) stack rest else .error .malformed
  | .escape _, _, 0x75 :: _ => .error .truncated
  | m, stack, b :: rest =>
    match m.next stack b with
    | .error e => .error e
    | .ok none => .ok (b :: rest)
    | .ok (some (m, stack)) => skipFrom m stack rest

def skipValue (bs : Bytes) : Except Fault Bytes := skipFrom .value [] bs

end FlagSheet.Json
