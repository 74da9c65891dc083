import FlagSheet.Bytes
import FlagSheet.Json.Basic

namespace FlagSheet.Json

inductive Fault where
  | malformed
  | truncated
  /-- It is JSON so far, but not of the form that is asked for. -/
  | unfit
deriving DecidableEq, Repr

def Fault.message : Fault → String
  | malformed => "malformed JSON"
  | truncated => "unexpected end of JSON"
  | unfit => "JSON of another form"

/-- What a reader gives: a value and the bytes behind it. -/
abbrev Reading (α : Type) := Except Fault (α × Bytes)

def byte (c : Char) : UInt8 := UInt8.ofNat c.toNat

def isSpaceByte (b : UInt8) : Bool := b = 0x20 || b = 0x0a || b = 0x0d || b = 0x09

def skipSpace (bs : Bytes) : Bytes := bs.dropWhile isSpaceByte

def isDigitByte (b : UInt8) : Bool := 0x30 ≤ b && b ≤ 0x39

def digitValue (b : UInt8) : Nat := b.toNat - 0x30

def readWord : List Char → Bytes → Reading Unit
  | [], bs => .ok ((), bs)
  | _ :: _, [] => .error .truncated
  | c :: cs, b :: bs => if b = byte c then readWord cs bs else .error .malformed

def hexValue? (b : UInt8) : Option Nat :=
  let n := b.toNat
  if 0x30 ≤ n ∧ n ≤ 0x39 then some (n - 0x30)
  else if 0x41 ≤ n ∧ n ≤ 0x46 then some (n - 0x37)
  else if 0x61 ≤ n ∧ n ≤ 0x66 then some (n - 0x57)
  else none

def unit? (a b c d : UInt8) : Option Nat := do
  return (((← hexValue? a) * 16 + (← hexValue? b)) * 16 + (← hexValue? c)) * 16 + (← hexValue? d)

def simpleEscape? (b : UInt8) : Option UInt8 :=
  match Char.ofNat b.toNat with
  | '"' => some 0x22
  | '\\' => some 0x5c
  | '/' => some 0x2f
  | 'b' => some 0x08
  | 'f' => some 0x0c
  | 'n' => some 0x0a
  | 'r' => some 0x0d
  | 't' => some 0x09
  | _ => none

def isHighSurrogate (n : Nat) : Bool := 0xd800 ≤ n && n ≤ 0xdbff

def isLowSurrogate (n : Nat) : Bool := 0xdc00 ≤ n && n ≤ 0xdfff

def codePointBytes (n : Nat) : Bytes := Bytes.ofText (String.singleton (Char.ofNat n))

def combine (high low : Nat) : Nat := 0x10000 + (high - 0xd800) * 0x400 + (low - 0xdc00)

def before (front : Bytes) : Reading Bytes → Reading Bytes
  | .ok (back, rest) => .ok (front ++ back, rest)
  | .error e => .error e

/-- Reads the content of a string behind its opening quote. Surrogates have to come in pairs. -/
def readContent : Bytes → Reading Bytes
  | [] => .error .truncated
  | 0x22 :: rest => .ok ([], rest)
  | 0x5c :: 0x75 :: a :: b :: c :: d :: rest =>
    match unit? a b c d with
    | none => .error .malformed
    | some n =>
      if isLowSurrogate n then .error .malformed
      else if isHighSurrogate n then
        match rest with
        | 0x5c :: 0x75 :: a :: b :: c :: d :: rest =>
          match unit? a b c d with
          | none => .error .malformed
          | some m =>
            if isLowSurrogate m then before (codePointBytes (combine n m)) (readContent rest)
            else .error .malformed
        | [] => .error .truncated
        | [0x5c] => .error .truncated
        | 0x5c :: 0x75 :: _ => .error .truncated
        | _ => .error .malformed
      else before (codePointBytes n) (readContent rest)
  | 0x5c :: 0x75 :: _ => .error .truncated
  | [0x5c] => .error .truncated
  | 0x5c :: e :: rest =>
    match simpleEscape? e with
    | some b => before [b] (readContent rest)
    | none => .error .malformed
  | b :: rest => if b < 0x20 then .error .malformed else before [b] (readContent rest)

def readString (bs : Bytes) : Reading String :=
  match readContent bs with
  | .error e => .error e
  | .ok (content, rest) =>
    match Bytes.text? content with
    | some s => .ok (s, rest)
    | none => .error .malformed

def spanDigits (bs : Bytes) : Bytes × Bytes := (bs.takeWhile isDigitByte, bs.dropWhile isDigitByte)

def significandLimit : Nat := 0x10000000000000000

/-- Takes further digits into a significand until the next one would not fit: the new significand and
the number of digits left out. -/
def addDigits (significand : Nat) : Bytes → Nat × Nat
  | [] => (significand, 0)
  | d :: ds =>
    let next := significand * 10 + digitValue d
    if next < significandLimit then addDigits next ds else (significand, (d :: ds).length)

def exponentLimit : Nat := 0x7fffffff

def decimal (minus : Bool) (significand : Nat) (exponent : Int) (rest : Bytes) : Reading Number :=
  if (Number.float false significand exponent).isInf then .error .malformed
  else .ok (.decimal minus significand exponent, rest)

def readExponent (minus : Bool) (significand : Nat) (exponent : Int) (bs : Bytes) :
    Reading Number :=
  let (down, bs) := match bs with
    | 0x2b :: bs => (false, bs)
    | 0x2d :: bs => (true, bs)
    | bs => (false, bs)
  match bs with
  | [] => .error .truncated
  | _ =>
    let (digits, rest) := spanDigits bs
    if digits.isEmpty then .error .malformed
    else
      let n := digits.foldl (fun n d => n * 10 + digitValue d) 0
      if exponentLimit < n then
        if significand = 0 || down then .ok (.decimal minus 0 0, rest) else .error .malformed
      else decimal minus significand (if down then exponent - n else exponent + n) rest

def readTail (minus : Bool) (significand : Nat) (exponent : Int) (bs : Bytes) : Reading Number :=
  match bs with
  | 0x65 :: rest => readExponent minus significand exponent rest
  | 0x45 :: rest => readExponent minus significand exponent rest
  | rest => decimal minus significand exponent rest

def readFraction (minus : Bool) (significand : Nat) (exponent : Int) (bs : Bytes) :
    Reading Number :=
  let (digits, rest) := spanDigits bs
  if digits.isEmpty then .error (if rest.isEmpty then .truncated else .malformed)
  else
    let (significand, left) := addDigits significand digits
    readTail minus significand (exponent - (digits.length - left : Nat)) rest

/-- A whole number, as far as 64 bits hold it. Zero with a minus is a decimal. -/
def whole (minus : Bool) (n : Nat) : Number :=
  if minus then
    if 0 < n && n ≤ 0x8000000000000000 then .negative (UInt64.ofNat n) else .decimal true n 0
  else .natural (UInt64.ofNat n)

def readUnsigned (minus : Bool) (bs : Bytes) : Reading Number :=
  match bs with
  | [] => .error .truncated
  | _ =>
    let (digits, rest) := spanDigits bs
    match digits with
    | [] => .error .malformed
    | d :: more =>
      if d = 0x30 && !more.isEmpty then .error .malformed
      else
        let (significand, left) := addDigits 0 digits
        match rest with
        | 0x2e :: rest => readFraction minus significand left rest
        | 0x65 :: rest => readExponent minus significand left rest
        | 0x45 :: rest => readExponent minus significand left rest
        | rest =>
          if left = 0 then .ok (whole minus significand, rest) else decimal minus significand left rest

def readNumber (bs : Bytes) : Reading Number :=
  match bs with
  | 0x2d :: rest => readUnsigned true rest
  | _ => readUnsigned false bs

def startsNumber (b : UInt8) : Bool := b = 0x2d || isDigitByte b

def insertMember (members : List (String × Json)) (name : String) (v : Json) :
    List (String × Json) :=
  if members.any (·.1 = name) then members.map fun m => if m.1 = name then (name, v) else m
  else members ++ [(name, v)]

mutual

def readValue (depth : Nat) (bs : Bytes) : Reading Json :=
  match depth with
  | 0 => .error .malformed
  | depth + 1 =>
    match skipSpace bs with
    | [] => .error .truncated
    | b :: rest =>
      match Char.ofNat b.toNat with
      | 'n' => (readWord ['u', 'l', 'l'] rest).map fun r => (null, r.2)
      | 't' => (readWord ['r', 'u', 'e'] rest).map fun r => (bool true, r.2)
      | 'f' => (readWord ['a', 'l', 's', 'e'] rest).map fun r => (bool false, r.2)
      | '"' => (readString rest).map fun r => (string r.1, r.2)
      | '[' =>
        match skipSpace rest with
        | 0x5d :: rest => .ok (array [], rest)
        | rest => (readItems depth rest.length rest).map fun r => (array r.1, r.2)
      | '{' =>
        match skipSpace rest with
        | 0x7d :: rest => .ok (object [], rest)
        | rest => (readMembers depth rest.length [] rest).map fun r => (object r.1, r.2)
      | _ =>
        if startsNumber b then (readNumber (b :: rest)).map fun r => (number r.1, r.2)
        else .error .malformed
termination_by (depth, 0)

def readItems (depth count : Nat) (bs : Bytes) : Reading (List Json) :=
  match count with
  | 0 => .error .truncated
  | count + 1 =>
    match readValue depth bs with
    | .error e => .error e
    | .ok (v, rest) =>
      match skipSpace rest with
      | [] => .error .truncated
      | 0x5d :: rest => .ok ([v], rest)
      | 0x2c :: rest => (readItems depth count rest).map fun r => (v :: r.1, r.2)
      | _ => .error .malformed
termination_by (depth, count + 1)

def readMembers (depth count : Nat) (members : List (String × Json)) (bs : Bytes) :
    Reading (List (String × Json)) :=
  match count with
  | 0 => .error .truncated
  | count + 1 =>
    match skipSpace bs with
    | [] => .error .truncated
    | 0x22 :: rest =>
      match readString rest with
      | .error e => .error e
      | .ok (name, rest) =>
        match skipSpace rest with
        | [] => .error .truncated
        | 0x3a :: rest =>
          match readValue depth rest with
          | .error e => .error e
          | .ok (v, rest) =>
            let members := insertMember members name v
            match skipSpace rest with
            | [] => .error .truncated
            | 0x7d :: rest => .ok (members, rest)
            | 0x2c :: rest => readMembers depth count members rest
            | _ => .error .malformed
        | _ => .error .malformed
    | _ => .error .malformed
termination_by (depth, count + 1)

end

def finish {α : Type} : Reading α → Except Fault α
  | .error e => .error e
  | .ok (v, rest) => if (skipSpace rest).isEmpty then .ok v else .error .malformed

def depthLimit : Nat := 128

def parse (bs : Bytes) : Except Fault Json := finish (readValue depthLimit bs)

end FlagSheet.Json
