import FlagSheet.Proofs.Checkbox
import FlagSheet.Proofs.Text.Lowercase
import FlagSheet.Slug

namespace FlagSheet.Slug

open Text

/-- Characters that add nothing to the end of a name: white space, and the `#` that close a heading. -/
def isIdle (c : Char) : Bool := isBlank c || c = '#'

/-- The second text is the first one with idle characters behind it, set off by white space where anything stands
before them. -/
def Trailed (t u : List Char) : Prop :=
  ∃ tail, u = t ++ tail ∧ tail.all isIdle = true ∧ (t ≠ [] → Checkbox.endsWord tail = true)

variable {t u : List Char}

theorem isIdle_of_isBlank {c : Char} (h : isBlank c = true) : isIdle c = true := by
  rw [isIdle, h, Bool.true_or]

theorem all_isIdle_dropWhile {cs : List Char} (h : cs.all isIdle = true) (p : Char → Bool) :
    (cs.dropWhile p).all isIdle = true := by
  rw [List.all_eq_true] at h ⊢
  exact fun c hc => h c ((List.dropWhile_sublist p).mem hc)

theorem Trailed.dropWhile (h : Trailed t u) (p : Char → Bool) : Trailed (t.dropWhile p) (u.dropWhile p) := by
  obtain ⟨tail, rfl, hidle, hends⟩ := h
  rw [List.dropWhile_append]
  split
  · next hnil =>
      rw [List.isEmpty_iff] at hnil
      rw [hnil]
      exact ⟨tail.dropWhile p, rfl, all_isIdle_dropWhile hidle p, fun hne => absurd rfl hne⟩
  · next hne =>
      refine ⟨tail, rfl, hidle, fun _ => hends ?_⟩
      rintro rfl
      exact hne rfl

theorem trailed_trimEnd (cs : List Char) : Trailed (trimEnd cs) cs := by
  obtain ⟨tail, hcs, hblank⟩ := exists_trimEnd_append cs
  refine ⟨tail, hcs, ?_, fun _ => ?_⟩
  · rw [List.all_eq_true] at hblank ⊢
    exact fun c hc => isIdle_of_isBlank (hblank c hc)
  · rw [Checkbox.endsWord, Option.all_eq_true]
    exact fun c hc => List.all_eq_true.1 hblank c (List.mem_of_head? hc)

theorem mark_append {tail : List Char} (h : tail.all isIdle = true) (cs : List Char) :
    Checkbox.mark (cs ++ tail) = (Checkbox.mark cs).map fun p => (p.1, p.2 ++ tail) := by
  cases hmark : Checkbox.mark cs with
  | some p =>
      obtain ⟨m, hm, rfl⟩ := Checkbox.mark_eq_some_iff.1 hmark
      exact Checkbox.mark_eq_some_iff.2 ⟨m, hm, List.append_assoc m p.2 tail⟩
  | none =>
      rw [Option.map_none, Option.eq_none_iff_forall_ne_some]
      rintro ⟨checked, rest⟩ happ
      obtain ⟨m, hm, happ⟩ := Checkbox.mark_eq_some_iff.1 happ
      have hnone (more : List Char) : cs ≠ m ++ more := by
        intro hcs
        rw [Checkbox.mark_eq_some_iff.2 ⟨m, hm, hcs⟩] at hmark
        cases hmark
      obtain ⟨c, rfl⟩ := hm.brackets
      obtain ⟨more, hbrackets, rfl⟩ | ⟨more, hcs, -⟩ := List.append_eq_append_iff.1 happ
      · have hmore : more ≠ [] := by
          rintro rfl
          exact hnone [] (by rw [hbrackets, List.append_nil, List.append_nil])
        -- The bracket that closes the mark would be idle.
        have hlast : ']' ∈ more := by
          apply List.mem_of_getLast?
          rw [← List.getLast?_append_of_ne_nil cs hmore, ← hbrackets]
          rfl
        exact absurd (List.all_eq_true.1 h ']' (List.mem_append_left rest hlast)) (by decide)
      · exact hnone more hcs

theorem isBullet_of_isIdle {c : Char} (h : isIdle c = true) : Checkbox.isBullet c = false := by
  rw [Bool.eq_false_iff]
  intro hbullet
  simp only [Checkbox.isBullet, Bool.or_eq_true, decide_eq_true_eq] at hbullet
  obtain (rfl | rfl) | rfl := hbullet <;> exact absurd h (by decide)

theorem mark_idle {cs : List Char} (h : cs.all isIdle = true) : Checkbox.mark cs = none := mark_append h []

def Read (p q : Bool × List Char) : Prop :=
  p.1 = q.1 ∧ Checkbox.endsWord p.2 = Checkbox.endsWord q.2 ∧ Trailed p.2 q.2

theorem Trailed.mark (h : Trailed t u) : Option.Rel Read (Checkbox.mark t) (Checkbox.mark u) := by
  obtain ⟨tail, rfl, hidle, hends⟩ := h
  cases hmark : Checkbox.mark t with
  | none =>
      rw [mark_append hidle, hmark]
      exact .none
  | some p =>
      obtain ⟨checked, rest⟩ := p
      have hword : Checkbox.endsWord tail = true := by
        apply hends
        rintro rfl
        cases hmark
      rw [mark_append hidle, hmark]
      refine .some ⟨rfl, ?_, tail, rfl, hidle, fun _ => hword⟩
      cases rest with
      | nil => exact hword.symm
      | cons c rest => rfl

theorem Trailed.marked (h : Trailed t u) :
    Option.Rel Read ((Checkbox.dropBullet t).bind Checkbox.mark) ((Checkbox.dropBullet u).bind Checkbox.mark) := by
  have htrailed := h
  obtain ⟨tail, rfl, hidle, hends⟩ := h
  cases t with
  | nil =>
      cases tail with
      | nil => exact .none
      | cons c tail =>
          have hc : isIdle c = true := List.all_eq_true.1 hidle c List.mem_cons_self
          rw [List.nil_append, Checkbox.dropBullet_of_not_bullet (isBullet_of_isIdle hc), Option.bind_some, mark_idle hidle]
          exact .none
  | cons c cs =>
      rw [List.cons_append]
      cases hc : Checkbox.isBullet c with
      | false =>
          rw [Checkbox.dropBullet_of_not_bullet hc, Checkbox.dropBullet_of_not_bullet hc]
          exact htrailed.mark
      | true =>
          rw [Checkbox.dropBullet_of_bullet hc, Checkbox.dropBullet_of_bullet hc]
          cases cs with
          | nil =>
              -- Behind a bullet that stood alone, idle characters are no mark.
              rw [List.nil_append, if_neg (by simp)]
              split
              · rw [Option.bind_some, trimStart, mark_idle (all_isIdle_dropWhile hidle _)]
                exact .none
              · exact .none
          | cons d cs =>
              have hrest : Trailed (d :: cs) (d :: cs ++ tail) :=
                ⟨tail, rfl, hidle, fun _ => hends (List.cons_ne_nil _ _)⟩
              rw [List.cons_append, List.head?_cons, List.head?_cons]
              split
              · exact (hrest.dropWhile _).mark
              · exact .none

theorem Trailed.split (h : Trailed t u) :
    Option.Rel (fun p q => p.1 = q.1 ∧ Trailed p.2 q.2) (Checkbox.split t) (Checkbox.split u) :=
  Checkbox.rel_split (fun _ _ hrest => hrest.dropWhile isBlank) (h.dropWhile isBlank).marked

theorem join_idle {cs : List Char} (h : cs.all isIdle = true) (started pending : Bool) :
    join started pending (cs.flatMap lower) = [] := by
  induction cs generalizing pending with
  | nil => rfl
  | cons c cs ih =>
      rw [List.all_cons, Bool.and_eq_true] at h
      cases hc : isBlank c with
      | true =>
          have hsep : isSeparator c = true := by rw [isSeparator, hc, Bool.true_or, Bool.true_or]
          rw [List.flatMap_cons, lower_of_isBlank hc, List.singleton_append, join, if_pos hsep]
          exact ih h.2 true
      | false =>
          obtain rfl : c = '#' := by simpa [isIdle, hc] using h.1
          rw [List.flatMap_cons, lower_of_lt (by decide), List.singleton_append, join, if_neg (by decide),
            if_neg (by decide +kernel)]
          exact ih h.2 pending

theorem join_append {ds : List Char} (h : ∀ started pending, join started pending ds = []) (cs : List Char)
    (started pending : Bool) : join started pending (cs ++ ds) = join started pending cs := by
  induction cs generalizing started pending with
  | nil => exact h started pending
  | cons c cs ih =>
      rw [List.cons_append, join, join, ih, ih, ih]

def behindMarks (cs : List Char) : List Char :=
  let text := trimStart (cs.dropWhile (· = '#'))
  ((Checkbox.split text).map (·.2)).getD text

theorem Trailed.behindMarks (h : Trailed t u) : Trailed (behindMarks t) (behindMarks u) := by
  have htext : Trailed (trimStart (t.dropWhile (· = '#'))) (trimStart (u.dropWhile (· = '#'))) :=
    (h.dropWhile _).dropWhile _
  have hsplit := htext.split
  unfold Slug.behindMarks
  dsimp only
  generalize Checkbox.split (trimStart (t.dropWhile (· = '#'))) = x at hsplit ⊢
  generalize Checkbox.split (trimStart (u.dropWhile (· = '#'))) = y at hsplit ⊢
  cases hsplit with
  | none => exact htext
  | some hrest => exact hrest.2

theorem Trailed.join (h : Trailed t u) : join false false (u.flatMap lower) = join false false (t.flatMap lower) := by
  obtain ⟨tail, rfl, hidle, -⟩ := h
  rw [List.flatMap_append]
  exact join_append (join_idle hidle) _ false false

/-- Trimming the end of a name does not change its slug. -/
theorem ofChars_eq (cs : List Char) : ofChars cs = Slug.join false false ((behindMarks (trimStart cs)).flatMap lower) :=
  (trailed_trimEnd (trimStart cs)).behindMarks.join.symm

theorem Trailed.ofChars (h : Trailed t u) : ofChars u = ofChars t := by
  rw [ofChars_eq, ofChars_eq]
  exact (h.dropWhile isBlank).behindMarks.join

theorem ofChars_trim (cs : List Char) : ofChars (trim cs) = ofChars cs := by
  rw [ofChars, ofChars, stripMarkup, stripMarkup, trim_of_tight (tight_trim cs)]

theorem ofChars_trimStart (cs : List Char) : ofChars (trimStart cs) = ofChars cs := by
  rw [ofChars_eq, ofChars_eq, trimStart, trimStart, List.dropWhile_idempotent]

theorem ofChars_space (cs : List Char) : ofChars (' ' :: cs) = ofChars cs := by
  rw [ofChars_eq, ofChars_eq]
  rfl

end FlagSheet.Slug
