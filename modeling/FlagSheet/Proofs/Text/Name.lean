import FlagSheet.Proofs.Text.Trim
import FlagSheet.Text.Alphanumeric

namespace FlagSheet.Text

def isPlain (c : Char) : Bool := isAlphanumeric c || c = ' '

/-- The spaces of a name stand between letters and digits, since it is `Tight`. -/
structure Name where
  chars : List Char
  ne_nil : chars ≠ []
  plain : chars.all isPlain = true
  tight : Tight chars

namespace Name

def toString (n : Name) : String := String.ofList n.chars

theorem isAlphanumeric_of_mem (n : Name) {c : Char} (hc : c ∈ n.chars) (hspace : c ≠ ' ') : isAlphanumeric c = true := by
  have hplain : isPlain c = true := List.all_eq_true.1 n.plain c hc
  rwa [isPlain, decide_eq_false hspace, Bool.or_false] at hplain

theorem not_mem (n : Name) {c : Char} (hc : isAlphanumeric c = false) (hspace : c ≠ ' ') : c ∉ n.chars := by
  intro h
  rw [n.isAlphanumeric_of_mem h hspace] at hc
  cases hc

theorem exists_cons (n : Name) : ∃ c cs, n.chars = c :: cs ∧ ∀ d, isAlphanumeric d = false → c ≠ d := by
  obtain ⟨c, cs, hn⟩ := List.exists_cons_of_ne_nil n.ne_nil
  have hspace : c ≠ ' ' := by
    rintro rfl
    have hblank : isBlank ' ' = false := n.tight.1 ' ' (by rw [hn]; rfl)
    cases hblank
  have hc : isAlphanumeric c = true := n.isAlphanumeric_of_mem (hn ▸ List.mem_cons_self) hspace
  refine ⟨c, cs, hn, ?_⟩
  rintro d hd rfl
  rw [hc] at hd
  cases hd

theorem tight_append (n : Name) {c : Char} (hc : isBlank c = false) (cs : List Char) : Tight (c :: cs ++ n.chars) := by
  refine ⟨fun d hd => ?_, fun d hd => ?_⟩
  · cases hd
    exact hc
  · rw [List.getLast?_append, Option.or_of_isSome (List.getLast?_isSome.2 n.ne_nil)] at hd
    exact n.tight.2 d hd

theorem trimStart_space (n : Name) : trimStart (' ' :: n.chars) = n.chars := by
  obtain ⟨c, cs, hn⟩ := List.exists_cons_of_ne_nil n.ne_nil
  have hc : isBlank c = false := n.tight.1 c (by rw [hn]; rfl)
  rw [hn]
  exact trimStart_eq_cons_iff.2 ⟨[' '], rfl, rfl, hc⟩

end Name

end FlagSheet.Text
