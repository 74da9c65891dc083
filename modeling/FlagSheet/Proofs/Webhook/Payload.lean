import FlagSheet.Proofs.Json.Record
import FlagSheet.Webhook.Event

namespace FlagSheet

namespace Json

def hexByte (n : Nat) : UInt8 := if n < 10 then UInt8.ofNat (0x30 + n) else UInt8.ofNat (0x57 + n)

def escapeByte (b : UInt8) : Bytes :=
  if b < 0x80 then [0x5c, 0x75, 0x30, 0x30, hexByte (b.toNat / 16), hexByte (b.toNat % 16)] else [b]

theorem escape_eq_bytes_ascii (n : Fin 128) :
    [0x5c, 0x75, 0x30, 0x30, hexByte (n / 16), hexByte (n % 16)] = (Written.Glyph.ascii n).bytes ∧
      String.utf8EncodeChar (Written.Glyph.ascii n).char = [UInt8.ofNat n] := by
  revert n
  decide

theorem readContent_escapeByte (b : UInt8) (bs : Bytes) :
    readContent (escapeByte b ++ bs) = before [b] (readContent bs) := by
  rw [escapeByte]
  by_cases hb : b < 0x80
  · have hlt : b.toNat < 128 := hb
    obtain ⟨hescape, hchar⟩ := escape_eq_bytes_ascii ⟨b.toNat, hlt⟩
    dsimp only at hescape hchar
    rw [if_pos hb, hescape, Written.readContent_glyph, hchar, UInt8.ofNat_toNat]
  · have hquote : b ≠ 0x22 := fun h => hb (h ▸ by decide)
    have hbackslash : b ≠ 0x5c := fun h => hb (h ▸ by decide)
    have hcontrol : 0x20 ≤ b := UInt8.le_trans (by decide) (UInt8.not_lt.1 hb)
    rw [if_neg hb, List.singleton_append, readContent_cons ⟨hcontrol, hquote, hbackslash⟩]

theorem readString_escaped (s : String) (bs : Bytes) :
    readString ((Bytes.ofText s).flatMap escapeByte ++ 0x22 :: bs) = .ok (s, bs) := by
  have hcontent (content : Bytes) :
      readContent (content.flatMap escapeByte ++ 0x22 :: bs) = .ok (content, bs) := by
    induction content with
    | nil => rfl
    | cons b content ih => rw [List.flatMap_cons, List.append_assoc, readContent_escapeByte, ih]; rfl
  rw [readString, hcontent]
  dsimp only
  rw [Bytes.text?_ofText]

def digits (n : Nat) : Bytes :=
  if n < 10 then [UInt8.ofNat (0x30 + n)] else digits (n / 10) ++ [UInt8.ofNat (0x30 + n % 10)]

theorem exists_digits (n : Nat) :
    ∃ ds : Written.Digits, digits n = ds.bytes ∧ ds.value = n ∧ (ds.first = 0 → ds.more = []) := by
  induction n using digits.induct with
  | case1 n hn => exact ⟨⟨⟨n, hn⟩, []⟩, by rw [digits, if_pos hn]; rfl, rfl, fun _ => rfl⟩
  | case2 n hn ih =>
      obtain ⟨⟨first, more⟩, hbytes, hvalue, hleading⟩ := ih
      refine ⟨⟨first, more ++ [⟨n % 10, Nat.mod_lt n (by decide)⟩]⟩, ?_, ?_, ?_⟩
      · rw [digits, if_neg hn, hbytes, Written.Digits.bytes, Written.Digits.bytes, List.map_append, List.cons_append]
        rfl
      · rw [Written.Digits.value] at hvalue ⊢
        rw [List.foldl_append, hvalue]
        exact Nat.div_add_mod' n 10
      · intro hfirst
        have hzero : n / 10 = 0 := by
          rw [← hvalue, Written.Digits.value, hleading hfirst]
          exact congrArg Fin.val hfirst
        omega

theorem digits_eq_cons (n : Nat) : ∃ d ds, digits n = d :: ds ∧ isDigitByte d = true := by
  obtain ⟨ds, hbytes, -, -⟩ := exists_digits n
  exact ⟨_, _, hbytes, (Written.digitByte_spec ds.first).1⟩

theorem skipSpace_digits (n : Nat) (bs : Bytes) : skipSpace (digits n ++ bs) = digits n ++ bs := by
  obtain ⟨d, ds, hd, hdigit⟩ := digits_eq_cons n
  rw [hd, List.cons_append, skipSpace_cons (isSpaceByte_of_isDigitByte hdigit)]

theorem readNatural_digits (n : UInt64) (bs : Bytes) :
    readNatural (digits n.toNat ++ 0x5d :: bs) = .ok (n, 0x5d :: bs) := by
  obtain ⟨ds, hbytes, hvalue, hleading⟩ := exists_digits n.toNat
  let numeral : Written.Numeral := ⟨false, ds, hleading, none, none⟩
  have hnumeral : numeral.bytes = digits n.toNat := by
    rw [hbytes]
    exact List.append_nil ds.bytes
  have hnatural : (Written.Value.number numeral).natural? = some n :=
    Written.Value.natural?_eq_some_iff.2 ⟨numeral, rfl, congrArg some hvalue⟩
  have hread := Written.reads_natural (.number numeral) [] (0x5d :: bs) (Written.delimited_cons (by decide) bs)
  rw [hnatural, Written.Value.bytes, hnumeral] at hread
  cases hr : readNatural (digits n.toNat ++ 0x5d :: bs) with
  | error e =>
      rw [Written.Gap.bytes, List.map_nil, List.nil_append, hr] at hread
      cases hread
  | ok r =>
      rw [Written.Gap.bytes, List.map_nil, List.nil_append, hr] at hread
      exact congrArg Except.ok (Option.some.inj hread)

theorem readItem_digits (n : UInt64) (bs : Bytes) :
    readItem true readNatural (digits n.toNat ++ 0x5d :: bs) = .ok (some n, 0x5d :: bs) := by
  have hread := readNatural_digits n bs
  have hskip := skipSpace_digits n.toNat (0x5d :: bs)
  obtain ⟨d, ds, hd, hdigit⟩ := digits_eq_cons n.toNat
  rw [hd] at hread hskip ⊢
  rw [readItem]
  rw [hskip]
  split
  · next h => cases h
  · next h =>
      cases (List.cons.inj h).1
      cases hdigit
  · next h =>
      rw [if_pos rfl, ← h, hread]
      rfl

theorem readText_escaped (s : String) (bs : Bytes) :
    readText (0x22 :: ((Bytes.ofText s).flatMap escapeByte ++ 0x22 :: bs)) = .ok (s, bs) := readString_escaped s bs

theorem readItem_text {bs rest : Bytes} {s : String} (h : readText (0x22 :: bs) = .ok (s, rest)) :
    readItem true readText (0x22 :: bs) = .ok (some s, rest) := by
  have hitem : readItem true readText (0x22 :: bs) = (readText (0x22 :: bs)).map fun r => (some r.1, r.2) := rfl
  rw [hitem, h]
  rfl

theorem readItem_array {α : Type} {read : Bytes → Reading α} {bs rest : Bytes} {v : α}
    (h : read (0x5b :: bs) = .ok (v, rest)) : readItem false read (0x2c :: 0x5b :: bs) = .ok (some v, rest) := by
  have hitem : readItem false read (0x2c :: 0x5b :: bs) = (read (0x5b :: bs)).map fun r => (some r.1, r.2) := rfl
  rw [hitem, h]
  rfl

theorem readRecord_array {α : Type} {fromObject fromArray : Bytes → Reading α} {bs rest : Bytes} {v : α}
    (h : fromArray bs = .ok (v, 0x5d :: rest)) : readRecord fromObject fromArray (0x5b :: bs) = .ok (v, rest) := by
  have hskip : skipSpace (0x5b :: bs) = 0x5b :: bs := rfl
  simp only [readRecord, hskip, h]
  rfl

end Json

namespace IssueEvent

open Json

/-- A delivery about an issue: its fields in their order, without an action and without a text. -/
def payload (repository : String) (issue : UInt64) : Bytes :=
  0x5b :: 0x22 :: 0x22 :: 0x2c :: 0x5b :: (digits issue.toNat ++ 0x5d :: 0x2c :: 0x5b :: 0x22 ::
    ((Bytes.ofText repository).flatMap escapeByte ++ [0x22, 0x5d, 0x5d]))

theorem readIssue_payload (issue : UInt64) (bs : Bytes) :
    readIssue (0x5b :: (digits issue.toNat ++ 0x5d :: bs)) = .ok ((issue, none), bs) := by
  apply readRecord_array
  rw [issueFromArray]
  rw [readItem_digits]
  rfl

theorem readRepository_payload (repository : String) (bs : Bytes) :
    readRepository (0x5b :: 0x22 :: ((Bytes.ofText repository).flatMap escapeByte ++ 0x22 :: 0x5d :: bs)) =
      .ok (repository, bs) := by
  apply readRecord_array
  rw [repositoryFromArray]
  rw [readItem_text (readText_escaped repository (0x5d :: bs))]
  rfl

theorem parse_payload (repository : String) (issue : UInt64) :
    parse (payload repository issue) = .ok ⟨"", repository, issue, none⟩ := by
  have haction (bs : Bytes) : readItem true readText (0x22 :: 0x22 :: bs) = .ok (some "", bs) := by
    apply readItem_text
    have h := readText_escaped "" bs
    rw [Bytes.ofText_eq] at h
    exact h
  have hrecord : readRecord fromObject fromArray (payload repository issue) =
      .ok (⟨"", repository, issue, none⟩, []) := by
    apply readRecord_array
    rw [fromArray]
    rw [haction]
    dsimp only [bind, Except.bind]
    rw [Option.isNone_some, readItem_array (readIssue_payload issue _)]
    dsimp only [required]
    rw [readItem_array (readRepository_payload repository _)]
    rfl
  rw [parse, hrecord]
  rfl

end IssueEvent

end FlagSheet
