import FlagSheet.Json.Reader
import FlagSheet.Proofs.Bytes
import FlagSheet.Proofs.Json.Written
import Mathlib.Tactic.SplitIfs

namespace FlagSheet.Json

theorem isSpaceByte_of_isDigitByte {d : UInt8} (h : isDigitByte d = true) : isSpaceByte d = false := by
  simp only [isSpaceByte, Bool.or_eq_false_iff, decide_eq_false_iff_not]
  refine ⟨⟨⟨?_, ?_⟩, ?_⟩, ?_⟩ <;> rintro rfl <;> cases h

theorem skipSpace_cons {b : UInt8} (h : isSpaceByte b = false) (bs : Bytes) : skipSpace (b :: bs) = b :: bs :=
  List.dropWhile_cons_of_neg (by simp [h])

theorem skipSpace_gap (gap : Written.Gap) (bs : Bytes) : skipSpace (gap.bytes ++ bs) = skipSpace bs := by
  apply List.dropWhile_append_of_pos
  intro b hb
  obtain ⟨s, -, rfl⟩ := List.mem_map.1 hb
  cases s <;> rfl

theorem before_append (a b : Bytes) (r : Reading Bytes) : before (a ++ b) r = before a (before b r) := by
  cases r with
  | error e => rfl
  | ok r => exact congrArg (fun bs => Except.ok (bs, r.2)) (List.append_assoc a b r.1)

theorem readContent_cons {b : UInt8} (hb : 0x20 ≤ b ∧ b ≠ 0x22 ∧ b ≠ 0x5c) (bs : Bytes) :
    readContent (b :: bs) = before [b] (readContent bs) := by
  obtain ⟨hcontrol, hquote, hbackslash⟩ := hb
  rw [readContent, if_neg (UInt8.not_lt.2 hcontrol)]
  · exact hquote
  all_goals
    intros
    contradiction

theorem readContent_append {bs : Bytes} (h : ∀ b ∈ bs, 0x20 ≤ b ∧ b ≠ 0x22 ∧ b ≠ 0x5c) (rest : Bytes) :
    readContent (bs ++ rest) = before bs (readContent rest) := by
  induction bs with
  | nil => cases hr : readContent rest <;> simp [before, hr]
  | cons b bs ih =>
      rw [List.forall_mem_cons] at h
      rw [List.cons_append, readContent_cons h.1, ih h.2, ← before_append, List.singleton_append]

theorem mem_utf8EncodeChar {c : Char} {b : UInt8} (h : b ∈ String.utf8EncodeChar c) :
    b.toNat = c.toNat ∨ 0x80 ≤ b.toNat := by
  have hc : c.toNat < 0x110000 := by
    rcases c.valid with hvalid | ⟨-, hvalid⟩
    · exact Nat.lt_trans hvalid (by decide)
    · exact hvalid
  change c.val.toNat < _ at hc
  change _ = c.val.toNat ∨ _
  simp only [String.utf8EncodeChar] at h
  split_ifs at h <;> simp only [List.mem_cons, List.not_mem_nil, or_false] at h
  · subst h
    simp only [UInt8.toNat_ofNat']
    omega
  · right
    rcases h with rfl | rfl <;> simp only [UInt8.toNat_ofNat'] <;> omega
  · right
    rcases h with rfl | rfl | rfl <;> simp only [UInt8.toNat_ofNat'] <;> omega
  · right
    rcases h with rfl | rfl | rfl | rfl <;> simp only [UInt8.toNat_ofNat'] <;> omega

theorem codePointBytes_eq (n : Nat) : codePointBytes n = String.utf8EncodeChar (Char.ofNat n) := by
  rw [codePointBytes, Bytes.ofText_eq_flatMap, String.toList_singleton, List.flatMap_singleton]

namespace Written

theorem hexValue?_byte (d : HexDigit) : hexValue? d.byte = some d.value.val := by
  obtain ⟨value, upper⟩ := d
  revert value upper
  decide

theorem unit?_byte (q : Quad) : unit? q.a.byte q.b.byte q.c.byte q.d.byte = some q.number := by
  rw [unit?, hexValue?_byte, hexValue?_byte, hexValue?_byte, hexValue?_byte]
  rfl

theorem isHighSurrogate_number {q : Quad} : isHighSurrogate q.number = true ↔ q.High := by
  simp [isHighSurrogate, Quad.High]

theorem isLowSurrogate_number {q : Quad} : isLowSurrogate q.number = true ↔ q.Low := by
  simp [isLowSurrogate, Quad.Low]

theorem simpleEscape?_letter (s : Special) : simpleEscape? s.letter = some (UInt8.ofNat s.char.toNat) := by
  cases s <;> decide

theorem readContent_special (s : Special) (bs : Bytes) :
    readContent (0x5c :: s.letter :: bs) = before (String.utf8EncodeChar s.char) (readContent bs) := by
  have hbytes : String.utf8EncodeChar s.char = [UInt8.ofNat s.char.toNat] := by cases s <;> decide
  have hletter : s.letter ≠ 0x75 := by cases s <;> decide
  rw [readContent, simpleEscape?_letter, hbytes]
  all_goals
    intros
    contradiction

theorem inner_of_mem_utf8EncodeChar {c : Char} (h : 0x20 ≤ c.toNat ∧ c ≠ '"' ∧ c ≠ '\\') {b : UInt8}
    (hb : b ∈ String.utf8EncodeChar c) : 0x20 ≤ b ∧ b ≠ 0x22 ∧ b ≠ 0x5c := by
  have hquote : c.toNat ≠ 0x22 := fun hc => h.2.1 (Char.toNat_inj.1 hc)
  have hbackslash : c.toNat ≠ 0x5c := fun hc => h.2.2 (Char.toNat_inj.1 hc)
  have hbyte := mem_utf8EncodeChar hb
  rw [UInt8.le_iff_toNat_le, Ne, Ne, ← UInt8.toNat_inj, ← UInt8.toNat_inj]
  simp only [UInt8.reduceToNat]
  omega

theorem readContent_glyph (g : Glyph) (bs : Bytes) :
    readContent (g.bytes ++ bs) = before (String.utf8EncodeChar g.char) (readContent bs) := by
  cases g with
  | plain c h => exact readContent_append (fun _ => inner_of_mem_utf8EncodeChar h) bs
  | special s => exact readContent_special s bs
  | code q h =>
      have hlow := mt isLowSurrogate_number.1 h.2
      have hhigh := mt isHighSurrogate_number.1 h.1
      simp only [Glyph.bytes, Quad.bytes, List.cons_append, List.nil_append]
      rw [readContent, unit?_byte]
      dsimp only
      rw [if_neg hlow, if_neg hhigh, codePointBytes_eq]
      rfl
  | pair high low h =>
      have hlow : ¬high.Low := by
        have := h.1
        simp only [Quad.High, Quad.Low] at this ⊢
        omega
      simp only [Glyph.bytes, Quad.bytes, List.cons_append, List.nil_append]
      rw [readContent, unit?_byte]
      dsimp only
      rw [if_neg (mt isLowSurrogate_number.1 hlow), if_pos (isHighSurrogate_number.2 h.1)]
      simp only [unit?_byte, isLowSurrogate_number.2 h.2, if_true, codePointBytes_eq]
      rfl

theorem readContent_text (t : Text) (rest : Bytes) :
    readContent (t.content ++ 0x22 :: rest) = .ok (Bytes.ofText t.string, rest) := by
  rw [Bytes.ofText_eq_flatMap, Text.string, String.toList_ofList]
  induction t with
  | nil => rfl
  | cons g t ih =>
      rw [Text.content, List.flatMap_cons, List.append_assoc, readContent_glyph, ← Text.content, ih]
      rfl

theorem readString_text (t : Text) (rest : Bytes) : readString (t.content ++ 0x22 :: rest) = .ok (t.string, rest) := by
  rw [readString, readContent_text]
  dsimp only
  rw [Bytes.text?_ofText]

theorem digitByte_spec (d : Fin 10) :
    isDigitByte (digitByte d) = true ∧ digitValue (digitByte d) = d.val ∧ (digitByte d = 0x30 ↔ d = 0) := by
  revert d
  decide

theorem isDigitByte_bytes (ds : Digits) : ∀ b ∈ ds.bytes, isDigitByte b = true := by
  rw [Digits.bytes, ← List.map_cons]
  intro b hb
  obtain ⟨d, -, rfl⟩ := List.mem_map.1 hb
  exact (digitByte_spec d).1

theorem foldl_bytes (ds : Digits) : ds.bytes.foldl (fun n b => n * 10 + digitValue b) 0 = ds.value := by
  rw [Digits.bytes, List.foldl_cons, List.foldl_map, Digits.value, Nat.zero_mul, Nat.zero_add]
  simp only [(digitByte_spec _).2.1]

/-- No number goes on here. -/
def Delimited (rest : Bytes) : Prop :=
  ∀ b ∈ rest.head?, isDigitByte b = false ∧ b ≠ 0x2e ∧ b ≠ 0x65 ∧ b ≠ 0x45

theorem Delimited.gap {rest : Bytes} (h : Delimited rest) (gap : Gap) : Delimited (gap.bytes ++ rest) := by
  cases gap with
  | nil => exact h
  | cons s gap =>
      rintro b ⟨⟩
      cases s <;> decide

theorem delimited_cons {b : UInt8} (h : b = 0x2c ∨ b = 0x5d ∨ b = 0x7d) (bs : Bytes) : Delimited (b :: bs) := by
  rintro _ ⟨⟩
  rcases h with rfl | rfl | rfl <;> decide

end Written

theorem spanDigits_append {ds rest : Bytes} (hds : ∀ d ∈ ds, isDigitByte d = true)
    (hrest : ∀ b ∈ rest.head?, isDigitByte b = false) : spanDigits (ds ++ rest) = (ds, rest) := by
  rw [spanDigits, List.takeWhile_append_of_pos hds, List.dropWhile_append_of_pos hds]
  cases rest with
  | nil => simp
  | cons b rest => simp [hrest b rfl]

theorem le_foldl_digits (significand : Nat) (ds : Bytes) :
    significand ≤ ds.foldl (fun n d => n * 10 + digitValue d) significand := by
  induction ds generalizing significand with
  | nil => exact Nat.le_refl _
  | cons d ds ih => exact Nat.le_trans (by omega) (ih (significand * 10 + digitValue d))

theorem addDigits_eq {significand : Nat} {ds : Bytes}
    (h : ds.foldl (fun n d => n * 10 + digitValue d) significand < significandLimit) :
    addDigits significand ds = (ds.foldl (fun n d => n * 10 + digitValue d) significand, 0) := by
  induction ds generalizing significand with
  | nil => rfl
  | cons d ds ih =>
      rw [List.foldl_cons] at h ⊢
      rw [addDigits, if_pos (Nat.lt_of_le_of_lt (le_foldl_digits _ ds) h), ih h]

theorem addDigits_ne_zero {significand : Nat} {ds : Bytes} (hlt : significand < significandLimit)
    (h : significandLimit ≤ ds.foldl (fun n d => n * 10 + digitValue d) significand) :
    (addDigits significand ds).2 ≠ 0 := by
  induction ds generalizing significand with
  | nil => exact absurd hlt (Nat.not_lt.2 h)
  | cons d ds ih =>
      rw [addDigits]
      split
      · next hnext => exact ih hnext h
      · exact Nat.succ_ne_zero _

def natural? : Reading Number → Option (UInt64 × Bytes)
  | .ok (.natural n, rest) => some (n, rest)
  | _ => none

theorem natural?_decimal (minus : Bool) (significand : Nat) (exponent : Int) (rest : Bytes) :
    natural? (decimal minus significand exponent rest) = none := by
  rw [decimal]
  split <;> rfl

theorem natural?_readExponent (minus : Bool) (significand : Nat) (exponent : Int) (bs : Bytes) :
    natural? (readExponent minus significand exponent bs) = none := by
  unfold readExponent
  dsimp only
  split
  · rfl
  · split_ifs
    · rfl
    · rfl
    · rfl
    all_goals exact natural?_decimal ..

theorem natural?_readFraction (minus : Bool) (significand : Nat) (exponent : Int) (bs : Bytes) :
    natural? (readFraction minus significand exponent bs) = none := by
  unfold readFraction readTail
  dsimp only
  split
  · rfl
  · split
    · exact natural?_readExponent ..
    · exact natural?_readExponent ..
    · exact natural?_decimal ..

theorem natural?_readUnsigned_minus (bs : Bytes) : natural? (readUnsigned true bs) = none := by
  unfold readUnsigned
  split
  · rfl
  · dsimp only
    split
    · rfl
    · split
      · rfl
      · split
        · exact natural?_readFraction ..
        · exact natural?_readExponent ..
        · exact natural?_readExponent ..
        · split
          · rw [whole, if_pos rfl]
            split <;> rfl
          · exact natural?_decimal ..

namespace Written

def Numeral.natural64? (n : Numeral) : Option UInt64 :=
  n.natural?.bind fun k => if k < significandLimit then some (UInt64.ofNat k) else none

theorem Numeral.natural64?_eq_some_iff {n : Numeral} {k : UInt64} :
    n.natural64? = some k ↔ n.natural? = some k.toNat := by
  rw [natural64?, Option.bind_eq_some_iff]
  constructor
  · rintro ⟨m, hm, hk⟩
    obtain ⟨hlt, hk⟩ := Option.ite_none_right_eq_some.1 hk
    rw [hm, ← Option.some.inj hk, UInt64.toNat_ofNat_of_lt' hlt]
  · intro h
    have hlt : k.toNat < significandLimit := k.toNat_lt
    exact ⟨k.toNat, h, by rw [if_pos hlt, UInt64.ofNat_toNat]⟩

def readBehind (minus : Bool) (significand left : Nat) : Bytes → Reading Number
  | 0x2e :: rest => readFraction minus significand left rest
  | 0x65 :: rest => readExponent minus significand left rest
  | 0x45 :: rest => readExponent minus significand left rest
  | rest => if left = 0 then .ok (whole minus significand, rest) else decimal minus significand left rest

theorem readUnsigned_bytes {ds : Digits} (h : ds.first = 0 → ds.more = []) (minus : Bool) {back : Bytes}
    (hback : ∀ b ∈ back.head?, isDigitByte b = false) :
    readUnsigned minus (ds.bytes ++ back) =
      readBehind minus (addDigits 0 ds.bytes).1 (addDigits 0 ds.bytes).2 back := by
  have hspan := spanDigits_append (isDigitByte_bytes ds) hback
  have hleading : (decide (digitByte ds.first = 0x30) && !(ds.more.map digitByte).isEmpty) = false := by
    by_cases hfirst : ds.first = 0
    · simp [h hfirst]
    · simp [mt (digitByte_spec ds.first).2.2.1 hfirst]
  rw [Digits.bytes] at hspan ⊢
  rw [readUnsigned]
  · rw [hspan]
    simp only [hleading, Bool.false_eq_true, if_false]
    rfl
  · simp

theorem natural?_readBehind (significand left : Nat) {rest : Bytes} (h : Delimited rest) :
    natural? (readBehind false significand left rest) =
      if left = 0 then some (UInt64.ofNat significand, rest) else none := by
  rw [readBehind]
  · split
    · rfl
    · exact natural?_decimal ..
  · rintro _ rfl
    exact (h _ rfl).2.1 rfl
  · rintro _ rfl
    exact (h _ rfl).2.2.1 rfl
  · rintro _ rfl
    exact (h _ rfl).2.2.2 rfl

theorem natural?_readUnsigned {n : Numeral} (hminus : n.minus = false) {rest : Bytes} (h : Delimited rest) :
    natural? (readUnsigned false (n.unsignedBytes ++ rest)) = n.natural64?.map fun k => (k, rest) := by
  obtain ⟨minus, whole, leading, fraction, exponent⟩ := n
  cases hminus
  rw [Numeral.unsignedBytes, List.append_assoc, List.append_assoc]
  cases fraction with
  | some ds =>
      rw [readUnsigned_bytes leading _ (by simp [Numeral.fractionBytes, isDigitByte])]
      exact natural?_readFraction ..
  | none =>
      cases exponent with
      | some e =>
          obtain ⟨upper, sign, digits⟩ := e
          cases upper
          all_goals
            rw [readUnsigned_bytes leading _ (by
              simp [Numeral.fractionBytes, Numeral.exponentBytes, Exponent.bytes, Exponent.mark, isDigitByte])]
            exact natural?_readExponent ..
      | none =>
          simp only [Numeral.fractionBytes, Numeral.exponentBytes, List.nil_append]
          rw [readUnsigned_bytes leading _ fun b hb => (h b hb).1, natural?_readBehind _ _ h, Numeral.natural64?,
            Numeral.natural?, Option.bind_some]
          -- Digits are left out just when the value does not fit, and then a decimal comes of it.
          by_cases hlt : whole.value < significandLimit
          · rw [addDigits_eq (by rwa [foldl_bytes]), foldl_bytes, if_pos rfl, if_pos hlt]
            rfl
          · have hleft : (addDigits 0 whole.bytes).2 ≠ 0 :=
              addDigits_ne_zero (by decide) (by rw [foldl_bytes]; exact Nat.not_lt.1 hlt)
            rw [if_neg hleft, if_neg hlt]
            rfl

theorem startsNumber_digitByte (d : Fin 10) : startsNumber (digitByte d) = true := by
  rw [startsNumber, (digitByte_spec d).1, Bool.or_true]

/-- A number is read as a natural one only if it is written with nothing but digits and 64 bits hold it. -/
theorem natural?_readNumber (n : Numeral) {rest : Bytes} (h : Delimited rest) :
    natural? (readNumber (n.bytes ++ rest)) = n.natural64?.map fun k => (k, rest) := by
  cases hminus : n.minus with
  | true =>
      rw [Numeral.bytes, if_pos hminus, List.cons_append, readNumber, natural?_readUnsigned_minus, Numeral.natural64?,
        Numeral.natural?, hminus]
      rfl
  | false =>
      have hread : readNumber (n.unsignedBytes ++ rest) = readUnsigned false (n.unsignedBytes ++ rest) := by
        rw [Numeral.unsignedBytes, Digits.bytes, readNumber]
        intro _ hcons
        have hdigit := (digitByte_spec n.whole.first).1
        rw [(List.cons.inj hcons).1] at hdigit
        exact absurd hdigit (by decide)
      rw [Numeral.bytes, hminus, if_neg Bool.false_ne_true, hread, natural?_readUnsigned hminus h]

theorem exists_numeral_bytes (n : Numeral) : ∃ b bs, n.bytes = b :: bs ∧ startsNumber b = true := by
  rw [Numeral.bytes]
  split
  · exact ⟨_, _, rfl, rfl⟩
  · exact ⟨_, _, rfl, startsNumber_digitByte n.whole.first⟩

theorem isSpaceByte_of_startsNumber {b : UInt8} (h : startsNumber b = true) : isSpaceByte b = false := by
  rw [startsNumber, Bool.or_eq_true, decide_eq_true_eq] at h
  rcases h with rfl | h
  · rfl
  · exact isSpaceByte_of_isDigitByte h

def Value.BeginsWith (b : UInt8) : Value → Prop
  | .null => b = 0x6e
  | .bool _ => b = 0x74 ∨ b = 0x66
  | .number _ => startsNumber b = true
  | .string _ => b = 0x22
  | .array _ _ => b = 0x5b
  | .object _ _ => b = 0x7b

theorem exists_bytes (v : Value) : ∃ b bs, v.bytes = b :: bs ∧ v.BeginsWith b := by
  cases v with
  | null => exact ⟨_, _, by rw [Value.bytes], rfl⟩
  | bool b =>
      cases b with
      | false => exact ⟨_, _, by rw [Value.bytes], .inr rfl⟩
      | true => exact ⟨_, _, by rw [Value.bytes], .inl rfl⟩
  | number n =>
      obtain ⟨b, bs, hn, hb⟩ := exists_numeral_bytes n
      exact ⟨b, bs, by rw [Value.bytes, hn], hb⟩
  | string t => exact ⟨_, _, by rw [Value.bytes, Text.bytes], rfl⟩
  | array gap items => exact ⟨_, _, by rw [Value.bytes], rfl⟩
  | object gap members => exact ⟨_, _, by rw [Value.bytes], rfl⟩

namespace Value.BeginsWith

variable {b : UInt8} {v : Value}

theorem isSpaceByte (h : v.BeginsWith b) : isSpaceByte b = false ∧ b ≠ 0x5d := by
  cases v with
  | null | string | array | object =>
      cases h
      decide
  | bool => rcases h with rfl | rfl <;> decide
  | number n =>
      refine ⟨isSpaceByte_of_startsNumber h, ?_⟩
      rintro rfl
      cases h

theorem number (h : v.BeginsWith b) (hb : startsNumber b = true) : ∃ n, v = .number n := by
  cases v with
  | number n => exact ⟨n, rfl⟩
  | null | string | array | object =>
      cases h
      cases hb
  | bool => rcases h with rfl | rfl <;> cases hb

theorem null (h : v.BeginsWith 0x6e) : v = .null := by
  cases v with
  | null => rfl
  | bool => rcases h with h | h <;> cases h
  | number | string | array | object => cases h

theorem quote (h : v.BeginsWith 0x22) : ∃ t, v = .string t := by
  cases v with
  | string t => exact ⟨t, rfl⟩
  | bool => rcases h with h | h <;> cases h
  | null | number | array | object => cases h

end Value.BeginsWith

theorem skipSpace_bytes (gap : Gap) (v : Value) (rest : Bytes) :
    skipSpace (gap.bytes ++ (v.bytes ++ rest)) = v.bytes ++ rest := by
  obtain ⟨b, bs, hv, hb⟩ := exists_bytes v
  rw [skipSpace_gap, hv, List.cons_append, skipSpace_cons hb.isSpaceByte.1]

end Written

end FlagSheet.Json
