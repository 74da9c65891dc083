import FlagSheet.Proofs.Bytes
import Mathlib.Tactic.SplitIfs

namespace FlagSheet.Bytes

theorem cons_lt_cons {b b' : UInt8} {bs bs' : Bytes} :
    b :: bs < b' :: bs' ↔ b.toNat < b'.toNat ∨ b.toNat = b'.toNat ∧ bs < bs' := by
  rw [List.cons_lt_cons_iff, UInt8.lt_iff_toNat_lt, UInt8.toNat_inj]

theorem utf8EncodeChar_append_lt {c d : Char} (h : c < d) (bs bs' : Bytes) :
    String.utf8EncodeChar c ++ bs < String.utf8EncodeChar d ++ bs' := by
  have hlt : c.val.toNat < d.val.toNat := h
  have hd : d.val.toNat < 0x110000 := by
    rcases d.valid with hvalid | ⟨-, hvalid⟩
    · exact Nat.lt_trans hvalid (by decide)
    · exact hvalid
  have hdigits (k : Nat) : k / 4096 = k / 64 / 64 ∧ k / 262144 = k / 64 / 64 / 64 := by omega
  simp only [String.utf8EncodeChar, hdigits]
  split_ifs <;> simp only [List.cons_append, cons_lt_cons, UInt8.toNat_ofNat'] <;> omega

theorem ofText_lt {a b : String} (h : a < b) : ofText a < ofText b := by
  rw [ofText_eq_flatMap, ofText_eq_flatMap]
  have hlt : List.Lex (· < ·) a.toList b.toList := h
  generalize a.toList = cs, b.toList = ds at hlt
  induction hlt with
  | @nil d ds =>
      obtain ⟨b, bs, hb⟩ := List.exists_cons_of_ne_nil (String.utf8EncodeChar_ne_nil (c := d))
      rw [List.flatMap_nil, List.flatMap_cons, hb]
      exact List.nil_lt_cons b _
  | rel h => exact utf8EncodeChar_append_lt h _ _
  | cons _ ih =>
      rw [List.flatMap_cons, List.flatMap_cons]
      exact List.append_left_lt ih

end FlagSheet.Bytes
