import FlagSheet.Document
import FlagSheet.Proofs.Checkbox

namespace FlagSheet

namespace Checkbox

open Text

variable {cs : List Char}

theorem dropBullet_firstLine (h : '[' ∈ firstLine cs) : dropBullet (firstLine cs) = (dropBullet cs).map firstLine := by
  cases cs with
  | nil => cases h
  | cons c cs =>
      have hfeed : c ≠ '\n' := by
        rintro rfl
        cases h
      rw [firstLine_cons_of_ne hfeed] at h ⊢
      cases hc : isBullet c with
      | false =>
          rw [dropBullet_of_not_bullet hc, dropBullet_of_not_bullet hc, Option.map_some, firstLine_cons_of_ne hfeed]
      | true =>
          have hne : '[' ≠ c := by
            rintro rfl
            cases hc
          have hrest := (List.mem_cons.1 h).resolve_left hne
          have hhead : (firstLine cs).head? = cs.head? := by
            cases cs with
            | nil => rfl
            | cons d cs =>
                have hd : d ≠ '\n' := by
                  rintro rfl
                  cases hrest
                rw [firstLine_cons_of_ne hd, List.head?_cons, List.head?_cons]
          rw [dropBullet_of_bullet hc, dropBullet_of_bullet hc, hhead, (trimStart_firstLine (by decide) hrest).1]
          split
          · rfl
          · rfl

theorem mark_firstLine (cs : List Char) : mark (firstLine cs) = (mark cs).map fun p => (p.1, firstLine p.2) := by
  cases hmark : mark cs with
  | some p =>
      obtain ⟨checked, rest⟩ := p
      obtain ⟨m, hm, rfl⟩ := mark_eq_some_iff.1 hmark
      have hline : '\n' ∉ m := by
        cases hm with
        | unchecked | checked | capital => decide
      exact mark_eq_some_iff.2 ⟨m, hm, firstLine_append_of_not_mem hline rest⟩
  | none =>
      rw [Option.map_none, Option.eq_none_iff_forall_ne_some]
      rintro ⟨checked, rest⟩ hfirst
      obtain ⟨m, hm, hcs⟩ := mark_eq_some_iff.1 hfirst
      have hwhole : mark cs = some (checked, rest ++ cs.dropWhile (· ≠ '\n')) := by
        refine mark_eq_some_iff.2 ⟨m, hm, ?_⟩
        rw [← List.append_assoc, ← hcs, firstLine, List.takeWhile_append_dropWhile]
      rw [hmark] at hwhole
      cases hwhole

theorem endsWord_firstLine (cs : List Char) : endsWord (firstLine cs) = endsWord cs := by
  cases cs with
  | nil => rfl
  | cons c cs =>
      by_cases hc : c = '\n'
      · subst hc
        rfl
      · rw [firstLine_cons_of_ne hc]
        rfl

theorem map_split_firstLine (h : '[' ∈ firstLine cs) : (split (firstLine cs)).map (·.1) = (split cs).map (·.1) := by
  obtain ⟨htrim, hmem⟩ := trimStart_firstLine (by decide) h
  rw [split, split, htrim, dropBullet_firstLine hmem]
  cases dropBullet (trimStart cs) with
  | none => rfl
  | some item =>
      change Option.map _ ((mark (firstLine item)).bind _) = Option.map _ ((mark item).bind _)
      rw [mark_firstLine]
      cases mark item with
      | none => rfl
      | some p =>
          rw [Option.map_some, Option.bind_some, Option.bind_some]
          dsimp only
          rw [endsWord_firstLine]
          split
          · rfl
          · rfl

end Checkbox

/-- In a block of conditions an item has the state that it has anywhere else, as long as its mark begins on the first
line. Otherwise it is passed over there. -/
theorem Draft.armed_conditionOf? (item : Node) :
    (conditionOf? item).map (·.armed) =
      if '[' ∈ Text.firstLine item.raw.toList then Checkbox.state item.raw else none := by
  rw [conditionOf?, Option.map_map]
  split
  · next h => exact Checkbox.map_split_firstLine h
  · next h =>
      rw [Checkbox.split_eq_none h]
      rfl

example : Checkbox.state "- \n  [x] Staff" = some true ∧ (Draft.conditionOf? (.item "- \n  [x] Staff")).isNone = true := by
  decide +kernel

end FlagSheet
