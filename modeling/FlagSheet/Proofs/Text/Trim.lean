import FlagSheet.Text.Blank
import Mathlib.Data.List.DropRight
import Mathlib.Data.List.TakeWhile

namespace FlagSheet.Text

variable {c : Char} {cs rest tail : List Char}

theorem head?_dropWhile_isBlank (cs : List Char) : ∀ c ∈ (cs.dropWhile isBlank).head?, isBlank c = false := by
  intro c hc
  have h := List.head?_dropWhile_not isBlank cs
  rw [hc] at h
  exact h

theorem trimStart_cons_of_not_blank (hc : isBlank c = false) (cs : List Char) : trimStart (c :: cs) = c :: cs :=
  List.dropWhile_cons_of_neg (by simp [hc])

theorem trimStart_eq_cons_iff :
    trimStart cs = c :: rest ↔ ∃ gap, gap.all isBlank = true ∧ cs = gap ++ c :: rest ∧ isBlank c = false := by
  constructor
  · intro h
    refine ⟨cs.takeWhile isBlank, List.all_takeWhile, ?_, ?_⟩
    · rw [← h, trimStart, List.takeWhile_append_dropWhile]
    · apply head?_dropWhile_isBlank cs
      rw [← trimStart, h]
      rfl
  · rintro ⟨gap, hgap, rfl, hc⟩
    rw [trimStart, List.dropWhile_append_of_pos (List.all_eq_true.1 hgap)]
    exact trimStart_cons_of_not_blank hc rest

theorem exists_trimEnd_append (cs : List Char) : ∃ tail, cs = trimEnd cs ++ tail ∧ tail.all isBlank = true := by
  refine ⟨(cs.reverse.takeWhile isBlank).reverse, ?_, ?_⟩
  · rw [trimEnd, ← List.reverse_append, List.takeWhile_append_dropWhile, List.reverse_reverse]
  · rw [List.all_reverse, List.all_takeWhile]

theorem trimEnd_append_of_blank (htail : tail.all isBlank = true) (cs : List Char) : trimEnd (cs ++ tail) = trimEnd cs := by
  rw [trimEnd, trimEnd, List.reverse_append, List.dropWhile_append_of_pos (by simpa using htail)]

theorem trimEnd_of_blank (h : cs.all isBlank = true) : trimEnd cs = [] := trimEnd_append_of_blank h []

theorem trimEnd_append_cons (hc : isBlank c = false) (before after : List Char) :
    trimEnd (before ++ c :: after) = before ++ c :: trimEnd after := by
  have hstop : (c :: before.reverse).dropWhile isBlank = c :: before.reverse :=
    List.dropWhile_cons_of_neg (by simp [hc])
  rw [trimEnd, trimEnd, List.reverse_append, List.reverse_cons, List.append_assoc, List.singleton_append,
    List.dropWhile_append, hstop]
  split
  · next hnil =>
      rw [List.isEmpty_iff] at hnil
      simp [hnil]
  · simp

theorem trimEnd_cons_of_not_blank (h : (c :: cs).all isBlank = false) : trimEnd (c :: cs) = c :: trimEnd cs := by
  rw [trimEnd, trimEnd, List.reverse_cons, List.dropWhile_append]
  split
  · next hrest =>
      rw [List.isEmpty_iff, List.dropWhile_eq_nil_iff] at hrest
      have hcs : cs.all isBlank = true := by simpa using hrest
      have hc : isBlank c = false := by rwa [List.all_cons, hcs, Bool.and_true] at h
      rw [List.dropWhile_cons_of_neg (by simp [hc]), List.dropWhile_eq_nil_iff.2 hrest]
      rfl
  · rw [List.reverse_append]
    rfl

theorem not_mem_trim (h : c ∉ cs) : c ∉ trim cs := by
  intro hmem
  rw [trim, trimEnd, List.mem_reverse] at hmem
  exact h ((List.dropWhile_sublist _).mem (List.mem_reverse.1 ((List.dropWhile_sublist _).mem hmem)))

theorem trim_append_of_blank (htail : tail.all isBlank = true) (cs : List Char) : trim (cs ++ tail) = trim cs := by
  rw [trim, trim, trimStart, trimStart, List.dropWhile_append]
  split
  · next hnil =>
      rw [List.isEmpty_iff] at hnil
      rw [hnil, List.dropWhile_eq_nil_iff.2 (List.all_eq_true.1 htail)]
  · exact trimEnd_append_of_blank htail _

def Tight (cs : List Char) : Prop := (∀ c ∈ cs.head?, isBlank c = false) ∧ ∀ c ∈ cs.getLast?, isBlank c = false

instance : DecidablePred Tight := fun cs =>
  decidable_of_iff (cs.head?.all (!isBlank ·) = true ∧ cs.getLast?.all (!isBlank ·) = true) (by
    simp [Tight, Option.all_eq_true])

theorem trimStart_of_tight (h : Tight cs) : trimStart cs = cs := by
  cases cs with
  | nil => rfl
  | cons c cs => exact trimStart_cons_of_not_blank (h.1 c rfl) cs

theorem trimEnd_of_tight (h : Tight cs) : trimEnd cs = cs := by
  unfold trimEnd
  cases hr : cs.reverse with
  | nil => rw [List.reverse_eq_nil_iff.1 hr]; rfl
  | cons c rest =>
      have hlast : isBlank c = false := h.2 c (by rw [← List.head?_reverse, hr]; rfl)
      rw [List.dropWhile_cons_of_neg (by simpa using hlast), ← hr, List.reverse_reverse]

theorem trim_of_tight (h : Tight cs) : trim cs = cs := by
  rw [trim, trimStart_of_tight h, trimEnd_of_tight h]

theorem trim_around {before cs after : List Char} (hbefore : before.all isBlank = true) (hcs : Tight cs) (hne : cs ≠ [])
    (hafter : after.all isBlank = true) : trim (before ++ cs ++ after) = cs := by
  obtain ⟨c, rest, rfl⟩ := List.exists_cons_of_ne_nil hne
  have hstart : trimStart (before ++ c :: rest) = c :: rest :=
    trimStart_eq_cons_iff.2 ⟨before, hbefore, rfl, hcs.1 c rfl⟩
  rw [trim_append_of_blank hafter, trim, hstart, trimEnd_of_tight hcs]

theorem tight_trim (cs : List Char) : Tight (trim cs) := by
  constructor
  · intro c hc
    obtain ⟨tail, hstart, -⟩ := exists_trimEnd_append (trimStart cs)
    apply head?_dropWhile_isBlank cs
    rw [← trimStart, hstart, List.head?_append, ← trim, hc]
    rfl
  · intro c hc
    rw [trim, trimEnd, List.getLast?_reverse] at hc
    exact head?_dropWhile_isBlank _ c hc

theorem trim_lineFeed (h : Tight cs) (hne : cs ≠ []) : trim (cs ++ ['\n']) = cs :=
  trim_around (rfl : ([] : List Char).all isBlank = true) h hne (rfl : ['\n'].all isBlank = true)

theorem not_mem_firstLine (cs : List Char) : '\n' ∉ firstLine cs := by
  intro h
  simpa using List.mem_takeWhile_imp h

theorem firstLine_subset (cs : List Char) : firstLine cs ⊆ cs := (List.takeWhile_sublist _).subset

theorem firstLine_cons_of_ne (hc : c ≠ '\n') (cs : List Char) : firstLine (c :: cs) = c :: firstLine cs := by
  simp [firstLine, hc]

theorem firstLine_append_of_not_mem (h : '\n' ∉ cs) (tail : List Char) : firstLine (cs ++ tail) = cs ++ firstLine tail := by
  rw [firstLine, List.takeWhile_append_of_pos]
  · rfl
  · intro c hc
    simpa using fun hfeed : c = '\n' => h (hfeed ▸ hc)

theorem firstLine_append_of_mem (h : '\n' ∈ cs) (tail : List Char) : firstLine (cs ++ tail) = firstLine cs := by
  rw [firstLine, List.takeWhile_append, if_neg]
  · rfl
  · intro hlength
    have hall := List.takeWhile_eq_self_iff.1 ((List.takeWhile_prefix _).eq_of_length hlength)
    simpa using hall '\n' h

theorem firstLine_of_not_mem (h : '\n' ∉ cs) : firstLine cs = cs := by
  have happ := firstLine_append_of_not_mem h []
  rwa [List.append_nil, show firstLine [] = [] from rfl, List.append_nil] at happ

/-- White space behind a text makes no difference to its first line but for white space at the end. -/
theorem trim_firstLine_trimEnd (cs : List Char) : trim (firstLine (trimEnd cs)) = trim (firstLine cs) := by
  obtain ⟨tail, hcs, hblank⟩ := exists_trimEnd_append cs
  generalize trimEnd cs = text at hcs ⊢
  subst hcs
  by_cases hfeed : '\n' ∈ text
  · rw [firstLine_append_of_mem hfeed]
  · have htail : (firstLine tail).all isBlank = true := by
      rw [List.all_eq_true] at hblank ⊢
      exact fun c hc => hblank c (firstLine_subset tail hc)
    rw [firstLine_append_of_not_mem hfeed, trim_append_of_blank htail, firstLine_of_not_mem hfeed]

theorem trimStart_firstLine (hc : isBlank c = false) (h : c ∈ firstLine cs) :
    trimStart (firstLine cs) = firstLine (trimStart cs) ∧ c ∈ firstLine (trimStart cs) := by
  induction cs with
  | nil => cases h
  | cons d cs ih =>
      by_cases hd : d = '\n'
      · subst hd
        cases h
      · rw [firstLine_cons_of_ne hd] at h ⊢
        cases hblank : isBlank d with
        | true =>
            have hne : c ≠ d := by
              rintro rfl
              rw [hc] at hblank
              cases hblank
            have ih := ih ((List.mem_cons.1 h).resolve_left hne)
            simpa only [trimStart, List.dropWhile_cons_of_pos hblank] using ih
        | false =>
            have hneg : ¬isBlank d = true := by simp [hblank]
            rw [trimStart, trimStart, List.dropWhile_cons_of_neg hneg, List.dropWhile_cons_of_neg hneg,
              firstLine_cons_of_ne hd]
            exact ⟨rfl, h⟩

end FlagSheet.Text
