import FlagSheet.Proofs.Checkbox

namespace FlagSheet.Text

def crlf (cs : List Char) : List Char := cs.flatMap fun c => if c = '\n' then ['\r', '\n'] else [c]

/-- The second text is the first one with carriage returns before some line feeds, and perhaps one at the end. -/
inductive Returned : List Char → List Char → Prop
  | nil : Returned [] []
  | last : Returned [] ['\r']
  | cons {a b : List Char} (c : Char) : Returned a b → Returned (c :: a) (c :: b)
  | feed {a b : List Char} : Returned a b → Returned ('\n' :: a) ('\r' :: '\n' :: b)

variable {a b : List Char}

theorem Returned.append (cs : List Char) (h : Returned a b) : Returned (cs ++ a) (cs ++ b) := by
  induction cs with
  | nil => exact h
  | cons c cs ih => exact .cons c ih

theorem Returned.trimStart (h : Returned a b) : Returned (trimStart a) (trimStart b) := by
  induction h with
  | nil => exact .nil
  | last => exact .nil
  | cons c h ih =>
      unfold Text.trimStart
      rw [List.dropWhile_cons, List.dropWhile_cons]
      split
      · exact ih
      · exact .cons c h
  | feed _ ih => exact ih

theorem Returned.all_isBlank (h : Returned a b) : a.all isBlank = b.all isBlank := by
  induction h with
  | nil => rfl
  | last => rfl
  | cons c _ ih => rw [List.all_cons, List.all_cons, ih]
  | feed _ ih =>
      simp only [List.all_cons, isBlank_lineFeed, isBlank_carriageReturn, Bool.true_and]
      exact ih

theorem Returned.trimEnd (h : Returned a b) : Returned (trimEnd a) (trimEnd b) := by
  induction h with
  | nil => exact .nil
  | last => exact .nil
  | cons c h ih =>
      have hall := (Returned.cons c h).all_isBlank
      cases hblank : (c :: _).all isBlank with
      | true =>
          rw [trimEnd_of_blank hblank, trimEnd_of_blank (hall ▸ hblank)]
          exact .nil
      | false =>
          rw [trimEnd_cons_of_not_blank hblank, trimEnd_cons_of_not_blank (hall ▸ hblank)]
          exact .cons c ih
  | feed h ih =>
      have hall := (Returned.feed h).all_isBlank
      cases hblank : ('\n' :: _).all isBlank with
      | true =>
          rw [trimEnd_of_blank hblank, trimEnd_of_blank (hall ▸ hblank)]
          exact .nil
      | false =>
          have hreturn := hall.symm.trans hblank
          have hfeed := hreturn
          rw [List.all_cons, isBlank_carriageReturn, Bool.true_and] at hfeed
          rw [trimEnd_cons_of_not_blank hblank, trimEnd_cons_of_not_blank hreturn, trimEnd_cons_of_not_blank hfeed]
          exact .feed ih

theorem Returned.trim (h : Returned a b) : Returned (trim a) (trim b) := h.trimStart.trimEnd

theorem Returned.firstLine (h : Returned a b) : Returned (firstLine a) (firstLine b) := by
  induction h with
  | nil => exact .nil
  | last => exact .last
  | cons c _ ih =>
      unfold Text.firstLine
      rw [List.takeWhile_cons, List.takeWhile_cons]
      split
      · exact .cons c ih
      · exact .nil
  | feed => exact .last

theorem Returned.eq_or_append (h : Returned a b) (ha : '\n' ∉ a) : b = a ∨ b = a ++ ['\r'] := by
  induction h with
  | nil => exact .inl rfl
  | last => exact .inr rfl
  | cons c _ ih =>
      rw [List.mem_cons, not_or] at ha
      exact (ih ha.2).imp (congrArg (c :: ·)) (congrArg (c :: ·))
  | feed => exact absurd List.mem_cons_self ha

theorem Returned.trim_eq (h : Returned a b) (ha : '\n' ∉ a) : Text.trim b = Text.trim a := by
  refine (h.trim.eq_or_append (not_mem_trim ha)).resolve_right fun hlast => ?_
  have htight := (tight_trim b).2
  rw [hlast, List.getLast?_append] at htight
  exact Bool.noConfusion (htight '\r' rfl)

open Checkbox

theorem Returned.dropBullet (h : Returned a b) : Option.Rel Returned (dropBullet a) (dropBullet b) := by
  cases h with
  | nil => exact .some .nil
  | last => exact .some .last
  | feed h => exact .some (.feed h)
  | cons c h =>
      cases hc : isBullet c with
      | false =>
          rw [dropBullet_of_not_bullet hc, dropBullet_of_not_bullet hc]
          exact .some (.cons c h)
      | true =>
          rw [dropBullet_of_bullet hc, dropBullet_of_bullet hc]
          cases h with
          | nil => exact .none
          | last => exact .none
          | feed h => exact .none
          | cons d h =>
              rw [List.head?_cons, List.head?_cons]
              split
              · exact .some (Returned.cons d h).trimStart
              · exact .none

theorem Returned.endsWord (h : Returned a b) : endsWord a = endsWord b := by
  cases h with
  | nil | last | cons | feed => rfl

theorem Returned.mark (h : Returned a b) :
    Option.Rel (fun p q => p.1 = q.1 ∧ Checkbox.endsWord p.2 = Checkbox.endsWord q.2 ∧ Returned p.2 q.2)
      (mark a) (mark b) := by
  have hnone {x y : Option (Bool × List Char)} (hx : x = none) (hy : y = none) :
      Option.Rel (fun p q => p.1 = q.1 ∧ Checkbox.endsWord p.2 = Checkbox.endsWord q.2 ∧ Returned p.2 q.2) x y := by
    rw [hx, hy]
    exact .none
  cases h with
  | nil | last | feed h => exact .none
  | cons c h =>
      cases h with
      | nil | last | feed h => exact hnone (mark_eq_none (.inl rfl)) (mark_eq_none (.inl rfl))
      | cons d h =>
          cases h with
          | nil | last | feed h => exact hnone (mark_eq_none (.inr rfl)) (mark_eq_none (.inr rfl))
          | cons e h =>
              obtain ⟨checked, hmark⟩ := mark_cons c d e
              rw [hmark, hmark]
              cases checked with
              | none => exact .none
              | some checked => exact .some ⟨rfl, h.endsWord, h⟩

theorem Returned.split (h : Returned a b) :
    Option.Rel (fun p q => p.1 = q.1 ∧ Returned p.2 q.2) (split a) (split b) := by
  apply rel_split (fun _ _ hrest => hrest.trimStart)
  exact rel_bind h.trimStart.dropBullet fun _ _ hitem => hitem.mark

theorem Returned.state (h : Returned a b) : (Checkbox.split a).map (·.1) = (Checkbox.split b).map (·.1) := by
  have hsplit := h.split
  generalize Checkbox.split a = x at hsplit ⊢
  generalize Checkbox.split b = y at hsplit ⊢
  cases hsplit with
  | none => rfl
  | some hrest => exact congrArg some hrest.1

theorem Returned.told (h : Returned a b) :
    (Checkbox.split (Text.firstLine a)).map (fun p => (p.1, Text.trim p.2)) =
      (Checkbox.split (Text.firstLine b)).map fun p => (p.1, Text.trim p.2) := by
  have hsplit := h.firstLine.split
  have hsuffix {p : Bool × List Char} (hp : Checkbox.split (Text.firstLine a) = some p) : '\n' ∉ p.2 :=
    fun hmem => not_mem_firstLine a ((carries_of_split hp).suffix.subset hmem)
  generalize Checkbox.split (Text.firstLine a) = x at hsplit hsuffix ⊢
  generalize Checkbox.split (Text.firstLine b) = y at hsplit ⊢
  cases hsplit with
  | none => rfl
  | some hrest =>
      rw [Option.map_some, Option.map_some, hrest.1, hrest.2.trim_eq (hsuffix rfl)]

end FlagSheet.Text
