import FlagSheet.Proofs.Slug

namespace FlagSheet

namespace Text

/-- What takes each capital of ASCII for its small letter does not see whether a text has been written in small ones. -/
theorem apply_toLower {β : Type} (f : Char → β)
    (h : ∀ k : Fin 26, f (Char.ofNat (0x61 + k)) = f (Char.ofNat (0x41 + k))) (c : Char) : f c.toLower = f c := by
  by_cases hc : c.toNat < 0x41 ∨ 0x5A < c.toNat
  · rw [toLower_eq_self hc]
  · have hk : c.toNat - 0x41 < 26 := by omega
    have hcode : 0x41 + (c.toNat - 0x41) = c.toNat := by omega
    have hsmall := toLower_capital ⟨c.toNat - 0x41, hk⟩
    have hf := h ⟨c.toNat - 0x41, hk⟩
    dsimp only at hsmall hf
    rw [← hsmall, hcode, Char.ofNat_toNat] at hf
    exact hf

theorem isAlpha_letter : ∀ k : Fin 26, (Char.ofNat (0x61 + k)).isAlpha = true ∧ (Char.ofNat (0x41 + k)).isAlpha = true := by
  decide

theorem toLower_eq_iff {c d : Char} (hd : d.isAlpha = false) : c.toLower = d ↔ c = d := by
  have hne {c : Char} (hc : c.isAlpha = true) : decide (c = d) = false := by
    rw [decide_eq_false_iff_not]
    rintro rfl
    rw [hd] at hc
    cases hc
  apply decide_eq_decide.1
  refine apply_toLower (fun c => decide (c = d)) (fun k => ?_) c
  rw [hne (isAlpha_letter k).1, hne (isAlpha_letter k).2]

theorem isBlank_toLower (c : Char) : isBlank c.toLower = isBlank c := apply_toLower isBlank (by decide) c

theorem lower_toLower (c : Char) : lower c.toLower = lower c := apply_toLower lower (by decide +kernel) c

theorem dropWhile_map_toLower {p : Char → Bool} (hp : ∀ c, p c.toLower = p c) (cs : List Char) :
    (cs.map Char.toLower).dropWhile p = (cs.dropWhile p).map Char.toLower := by
  rw [List.dropWhile_map, show p ∘ Char.toLower = p from funext hp]

theorem trimStart_map_toLower (cs : List Char) : trimStart (cs.map Char.toLower) = (trimStart cs).map Char.toLower :=
  dropWhile_map_toLower isBlank_toLower cs

theorem trim_map_toLower (cs : List Char) : trim (cs.map Char.toLower) = (trim cs).map Char.toLower := by
  rw [trim, trimStart_map_toLower, trimEnd, ← List.map_reverse, dropWhile_map_toLower isBlank_toLower, ← List.map_reverse]
  rfl

end Text

open Text

namespace Checkbox

theorem mark_map_toLower (cs : List Char) :
    mark (cs.map Char.toLower) = (mark cs).map fun p => (p.1, p.2.map Char.toLower) := by
  match cs with
  | [] | [_] | [_, _] => simp [mark]
  | c :: d :: e :: rest =>
      have hstate : stateOf d.toLower = stateOf d := apply_toLower stateOf (by decide) d
      simp only [List.map_cons, mark_eq, hstate, toLower_eq_iff (show '['.isAlpha = false from rfl),
        toLower_eq_iff (show ']'.isAlpha = false from rfl)]
      split
      · rw [Option.map_map]
        rfl
      · rfl

theorem dropBullet_map_toLower (cs : List Char) :
    dropBullet (cs.map Char.toLower) = (dropBullet cs).map (List.map Char.toLower) := by
  cases cs with
  | nil => rfl
  | cons c cs =>
      have hbullet : isBullet c.toLower = isBullet c := apply_toLower isBullet (by decide) c
      rw [List.map_cons]
      cases hc : isBullet c with
      | false =>
          rw [dropBullet_of_not_bullet hc, dropBullet_of_not_bullet (hbullet.trans hc)]
          rfl
      | true =>
          have hspace {d : Char} (hd : d.isAlpha = false) : (cs.map Char.toLower).head? = some d ↔ cs.head? = some d := by
            cases cs with
            | nil => simp
            | cons c cs => simpa using toLower_eq_iff hd
          simp only [dropBullet_of_bullet hc, dropBullet_of_bullet (hbullet.trans hc), trimStart_map_toLower,
            hspace (show ' '.isAlpha = false from rfl), hspace (show '\t'.isAlpha = false from rfl)]
          split <;> rfl

theorem endsWord_map_toLower (cs : List Char) : endsWord (cs.map Char.toLower) = endsWord cs := by
  cases cs with
  | nil => rfl
  | cons c cs => exact isBlank_toLower c

theorem split_map_toLower (cs : List Char) :
    split (cs.map Char.toLower) = (split cs).map fun p => (p.1, p.2.map Char.toLower) := by
  rw [split, split, trimStart_map_toLower, dropBullet_map_toLower]
  cases dropBullet (trimStart cs) with
  | none => rfl
  | some item =>
      dsimp only [Option.map_some, Option.bind_eq_bind, Option.bind_some]
      rw [mark_map_toLower]
      cases mark item with
      | none => rfl
      | some p =>
          dsimp only [Option.map_some, Option.bind_some]
          rw [endsWord_map_toLower, trimStart_map_toLower]
          split <;> rfl

end Checkbox

namespace Slug

theorem stripMarkup_map_toLower (cs : List Char) : stripMarkup (cs.map Char.toLower) = (stripMarkup cs).map Char.toLower := by
  have hmarks (c : Char) : decide (c.toLower = '#') = decide (c = '#') :=
    decide_eq_decide.2 (toLower_eq_iff (show '#'.isAlpha = false from rfl))
  rw [stripMarkup, stripMarkup, trim_map_toLower, dropWhile_map_toLower hmarks, trimStart_map_toLower,
    Checkbox.split_map_toLower]
  cases Checkbox.split (trimStart ((trim cs).dropWhile (· = '#'))) <;> rfl

theorem ofChars_map_toLower (cs : List Char) : ofChars (cs.map Char.toLower) = ofChars cs := by
  rw [ofChars, ofChars, stripMarkup_map_toLower, List.flatMap_map]
  exact congrArg (join false false ·.flatten) (List.map_congr_left fun c _ => lower_toLower c)

end Slug

theorem slugify_of_sameAscii {a b : String} (h : sameAscii a.toList b.toList = true) : slugify a = slugify b := by
  rw [sameAscii, decide_eq_true_eq] at h
  rw [slugify, slugify, ← Slug.ofChars_map_toLower, h, Slug.ofChars_map_toLower]

end FlagSheet
