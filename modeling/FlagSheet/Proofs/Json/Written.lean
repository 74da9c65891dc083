import FlagSheet.Bytes

namespace FlagSheet.Json.Written

inductive Space where
  | blank
  | tab
  | lineFeed
  | carriageReturn

def Space.byte : Space → UInt8
  | blank => 0x20
  | tab => 0x09
  | lineFeed => 0x0a
  | carriageReturn => 0x0d

abbrev Gap := List Space

def Gap.bytes (gap : Gap) : Bytes := gap.map Space.byte

structure HexDigit where
  value : Fin 16
  /-- Of no effect on a decimal digit. -/
  upper : Bool

def HexDigit.byte (d : HexDigit) : UInt8 :=
  UInt8.ofNat (d.value + if d.value < 10 then 0x30 else if d.upper then 0x37 else 0x57)

structure Quad where
  a : HexDigit
  b : HexDigit
  c : HexDigit
  d : HexDigit

namespace Quad

def number (q : Quad) : Nat := ((q.a.value * 16 + q.b.value) * 16 + q.c.value) * 16 + q.d.value

def bytes (q : Quad) : Bytes := [0x5c, 0x75, q.a.byte, q.b.byte, q.c.byte, q.d.byte]

def High (q : Quad) : Prop := 0xd800 ≤ q.number ∧ q.number ≤ 0xdbff

def Low (q : Quad) : Prop := 0xdc00 ≤ q.number ∧ q.number ≤ 0xdfff

end Quad

inductive Special where
  | quote
  | backslash
  | slash
  | backspace
  | formFeed
  | lineFeed
  | carriageReturn
  | tab

namespace Special

def letter : Special → UInt8
  | quote => 0x22
  | backslash => 0x5c
  | slash => 0x2f
  | backspace => 0x62
  | formFeed => 0x66
  | lineFeed => 0x6e
  | carriageReturn => 0x72
  | tab => 0x74

def char : Special → Char
  | quote => '"'
  | backslash => '\\'
  | slash => '/'
  | backspace => Char.ofNat 0x08
  | formFeed => Char.ofNat 0x0c
  | lineFeed => Char.ofNat 0x0a
  | carriageReturn => Char.ofNat 0x0d
  | tab => Char.ofNat 0x09

end Special

/-- A character of a string, as it is written. A surrogate stands only in a pair. -/
inductive Glyph where
  | plain (c : Char) (h : 0x20 ≤ c.toNat ∧ c ≠ '"' ∧ c ≠ '\\')
  | special (s : Special)
  | code (q : Quad) (h : ¬q.High ∧ ¬q.Low)
  | pair (high low : Quad) (h : high.High ∧ low.Low)

namespace Glyph

def char : Glyph → Char
  | plain c _ => c
  | special s => s.char
  | code q _ => Char.ofNat q.number
  | pair high low _ => Char.ofNat (0x10000 + (high.number - 0xd800) * 0x400 + (low.number - 0xdc00))

def bytes : Glyph → Bytes
  | plain c _ => String.utf8EncodeChar c
  | special s => [0x5c, s.letter]
  | code q _ => q.bytes
  | pair high low _ => high.bytes ++ low.bytes

end Glyph

abbrev Text := List Glyph

namespace Text

def string (t : Text) : String := String.ofList (t.map Glyph.char)

def content (t : Text) : Bytes := t.flatMap Glyph.bytes

def bytes (t : Text) : Bytes := 0x22 :: (t.content ++ [0x22])

end Text

def Quad.ascii (n : Nat) : Quad :=
  ⟨⟨0, false⟩, ⟨0, false⟩, ⟨Fin.ofNat 16 (n / 16), false⟩, ⟨Fin.ofNat 16 n, false⟩⟩

theorem Quad.number_ascii (n : Nat) : (Quad.ascii n).number = n % 256 := by
  simp only [Quad.number, Quad.ascii, Fin.ofNat, Fin.val_zero]
  omega

theorem Quad.not_surrogate_ascii (n : Nat) : ¬(Quad.ascii n).High ∧ ¬(Quad.ascii n).Low := by
  simp only [Quad.High, Quad.Low, Quad.number_ascii]
  omega

def Glyph.ascii (n : Nat) : Glyph := .code (Quad.ascii n) (Quad.not_surrogate_ascii n)

def Glyph.of (c : Char) : Glyph :=
  if h : 0x20 ≤ c.toNat ∧ c ≠ '"' ∧ c ≠ '\\' then .plain c h else .ascii c.toNat

theorem Glyph.char_of (c : Char) : (Glyph.of c).char = c := by
  rw [Glyph.of]
  split
  · rfl
  · next h =>
      have hc : c.toNat < 256 := by
        apply Nat.lt_of_not_le
        intro hle
        refine h ⟨Nat.le_trans (by decide) hle, ?_, ?_⟩
        all_goals
          rintro rfl
          exact absurd hle (by decide)
      rw [Glyph.ascii, Glyph.char, Quad.number_ascii, Nat.mod_eq_of_lt hc, Char.ofNat_toNat]

def Text.of (s : String) : Text := s.toList.map Glyph.of

theorem Text.string_of (s : String) : (Text.of s).string = s := by
  rw [Text.string, Text.of, List.map_map]
  have hchars : Glyph.char ∘ Glyph.of = id := funext Glyph.char_of
  rw [hchars, List.map_id, String.ofList_toList]

structure Digits where
  first : Fin 10
  more : List (Fin 10)

def digitByte (d : Fin 10) : UInt8 := UInt8.ofNat (0x30 + d)

namespace Digits

def bytes (ds : Digits) : Bytes := digitByte ds.first :: ds.more.map digitByte

def value (ds : Digits) : Nat := ds.more.foldl (fun n (d : Fin 10) => n * 10 + d.val) ds.first.val

end Digits

inductive Sign where
  | plus
  | minus

def Sign.byte : Sign → UInt8
  | plus => 0x2b
  | minus => 0x2d

structure Exponent where
  upper : Bool
  sign : Option Sign
  digits : Digits

namespace Exponent

def mark (e : Exponent) : UInt8 := if e.upper then 0x45 else 0x65

def bytes (e : Exponent) : Bytes := e.mark :: ((e.sign.map Sign.byte).toList ++ e.digits.bytes)

end Exponent

/-- A number. Its whole part has no leading zeros. -/
structure Numeral where
  minus : Bool
  whole : Digits
  leading : whole.first = 0 → whole.more = []
  fraction : Option Digits
  exponent : Option Exponent

namespace Numeral

def fractionBytes : Option Digits → Bytes
  | none => []
  | some ds => 0x2e :: ds.bytes

def exponentBytes : Option Exponent → Bytes
  | none => []
  | some e => e.bytes

def unsignedBytes (n : Numeral) : Bytes :=
  n.whole.bytes ++ (fractionBytes n.fraction ++ exponentBytes n.exponent)

def bytes (n : Numeral) : Bytes := if n.minus then 0x2d :: n.unsignedBytes else n.unsignedBytes

def natural? (n : Numeral) : Option Nat :=
  match n.minus, n.fraction, n.exponent with
  | false, none, none => some n.whole.value
  | _, _, _ => none

end Numeral

structure Item (α : Type) where
  before : Gap
  value : α
  after : Gap

structure Member (α : Type) where
  before : Gap
  name : Text
  beforeColon : Gap
  afterColon : Gap
  value : α
  after : Gap

/-- A value. In front of its first item or member an array or an object may have a gap of its own. -/
inductive Value where
  | null
  | bool (b : Bool)
  | number (n : Numeral)
  | string (t : Text)
  | array (gap : Gap) (items : List (Item Value))
  | object (gap : Gap) (members : List (Member Value))

def Value.IsObject : Value → Prop
  | object _ _ => True
  | _ => False

mutual

def Value.bytes : Value → Bytes
  | .null => [0x6e, 0x75, 0x6c, 0x6c]
  | .bool true => [0x74, 0x72, 0x75, 0x65]
  | .bool false => [0x66, 0x61, 0x6c, 0x73, 0x65]
  | .number n => n.bytes
  | .string t => t.bytes
  | .array gap items => 0x5b :: (gap.bytes ++ [0x2c].intercalate (itemTexts items) ++ [0x5d])
  | .object gap members => 0x7b :: (gap.bytes ++ [0x2c].intercalate (memberTexts members) ++ [0x7d])

def itemTexts : List (Item Value) → List Bytes
  | [] => []
  | ⟨before, v, after⟩ :: items => (before.bytes ++ (v.bytes ++ after.bytes)) :: itemTexts items

def memberTexts : List (Member Value) → List Bytes
  | [] => []
  | ⟨before, name, beforeColon, afterColon, v, after⟩ :: members =>
    (before.bytes ++ (name.bytes ++ (beforeColon.bytes ++ 0x3a :: (afterColon.bytes ++ (v.bytes ++ after.bytes))))) ::
      memberTexts members

end

def Item.bytes (i : Item Value) : Bytes := i.before.bytes ++ (i.value.bytes ++ i.after.bytes)

namespace Member

def bytesBehind (m : Member Value) : Bytes :=
  m.beforeColon.bytes ++ 0x3a :: (m.afterColon.bytes ++ (m.value.bytes ++ m.after.bytes))

def bytes (m : Member Value) : Bytes := m.before.bytes ++ (m.name.bytes ++ m.bytesBehind)

end Member

theorem itemTexts_eq (items : List (Item Value)) : itemTexts items = items.map Item.bytes := by
  induction items with
  | nil => rfl
  | cons i items ih => rw [itemTexts, ih, List.map_cons, Item.bytes]

theorem memberTexts_eq (members : List (Member Value)) : memberTexts members = members.map Member.bytes := by
  induction members with
  | nil => rfl
  | cons m members ih => rw [memberTexts, ih, List.map_cons, Member.bytes, Member.bytesBehind]

def named (name : String) (members : List (Member Value)) : List Value :=
  (members.filter fun m => m.name.string = name).map Member.value

end FlagSheet.Json.Written
