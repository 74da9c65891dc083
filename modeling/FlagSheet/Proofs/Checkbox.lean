import FlagSheet.Checkbox
import FlagSheet.Proofs.Text.Trim
import Mathlib.Data.Option.Basic

namespace FlagSheet

open Text

def Text.stateOf (c : Char) : Option Bool := if c = ' ' then some false else if c = 'x' ∨ c = 'X' then some true else none

def Text.isLineEnd (c : Char) : Bool := c = '\n' || c = '\r'

namespace Checkbox

variable {cs rest : List Char} {checked : Bool}

theorem isBullet_iff {c : Char} : isBullet c = true ↔ c = '-' ∨ c = '*' ∨ c = '+' := by
  simp [isBullet, or_assoc]

theorem dropBullet_of_bullet {c : Char} (hc : isBullet c = true) (cs : List Char) :
    dropBullet (c :: cs) = if cs.head? = some ' ' ∨ cs.head? = some '\t' then some (trimStart cs) else none := by
  unfold dropBullet
  dsimp only
  rw [if_pos hc]
  split
  · rfl
  · rfl
  · next hspace htab =>
      rw [if_neg]
      rintro (h | h)
      · obtain ⟨rest, rfl⟩ := List.head?_eq_some_iff.1 h
        exact hspace rest rfl
      · obtain ⟨rest, rfl⟩ := List.head?_eq_some_iff.1 h
        exact htab rest rfl

theorem dropBullet_of_not_bullet {c : Char} (hc : isBullet c = false) (cs : List Char) :
    dropBullet (c :: cs) = some (c :: cs) := by
  simp [dropBullet, hc]

theorem mark_eq (c d e : Char) (rest : List Char) :
    mark (c :: d :: e :: rest) = if c = '[' ∧ e = ']' then (stateOf d).map (·, rest) else none := by
  by_cases hbrackets : c = '[' ∧ e = ']'
  · obtain ⟨rfl, rfl⟩ := hbrackets
    rw [if_pos ⟨rfl, rfl⟩, stateOf]
    unfold mark
    split <;> simp_all
  · rw [if_neg hbrackets]
    unfold mark
    split <;> simp_all

theorem mark_cons (c d e : Char) : ∃ checked : Option Bool, ∀ rest, mark (c :: d :: e :: rest) = checked.map (·, rest) := by
  refine ⟨if c = '[' ∧ e = ']' then stateOf d else none, fun rest => ?_⟩
  rw [mark_eq]
  split <;> rfl

theorem mark_eq_none (h : cs[1]?.all isLineEnd = true ∨ cs[2]?.all isLineEnd = true) :
    mark cs = none := by
  unfold mark
  split
  · exact absurd h (by simp [isLineEnd])
  · exact absurd h (by simp [isLineEnd])
  · exact absurd h (by simp [isLineEnd])
  · rfl

theorem split_eq_some_iff :
    split cs = some (checked, rest) ↔ ∃ item tail, dropBullet (trimStart cs) = some item ∧
      mark item = some (checked, tail) ∧ endsWord tail = true ∧ rest = trimStart tail := by
  constructor
  · intro h
    obtain ⟨item, hitem, h⟩ := Option.bind_eq_some_iff.1 h
    obtain ⟨⟨checked', tail⟩, hmark, h⟩ := Option.bind_eq_some_iff.1 h
    dsimp only at h
    split at h
    · next hends =>
        cases h
        exact ⟨item, tail, hitem, hmark, hends, rfl⟩
    · cases h
  · rintro ⟨item, tail, hitem, hmark, hends, rfl⟩
    rw [split, hitem]
    simp [hmark, hends]

theorem rel_bind {α β : Type} {r : α → α → Prop} {s : β → β → Prop} {x y : Option α} {f g : α → Option β}
    (h : Option.Rel r x y) (hf : ∀ v w, r v w → Option.Rel s (f v) (g w)) : Option.Rel s (x.bind f) (y.bind g) := by
  cases h with
  | none => exact .none
  | some hr => exact hf _ _ hr

theorem rel_split {r : List Char → List Char → Prop} (hr : ∀ t u, r t u → r (trimStart t) (trimStart u)) {cs ds : List Char}
    (h : Option.Rel (fun p q => p.1 = q.1 ∧ endsWord p.2 = endsWord q.2 ∧ r p.2 q.2)
      ((dropBullet (trimStart cs)).bind mark) ((dropBullet (trimStart ds)).bind mark)) :
    Option.Rel (fun p q => p.1 = q.1 ∧ r p.2 q.2) (split cs) (split ds) := by
  have hsplit (cs : List Char) : split cs = ((dropBullet (trimStart cs)).bind mark).bind
      fun p => if endsWord p.2 then some (p.1, trimStart p.2) else none := by
    rw [Option.bind_assoc]
    rfl
  rw [hsplit, hsplit]
  refine rel_bind h ?_
  rintro ⟨checked, rest⟩ ⟨_, rest'⟩ ⟨rfl, hends, hrest⟩
  dsimp only at hends ⊢
  rw [hends]
  split
  · exact .some ⟨rfl, hr rest rest' hrest⟩
  · exact .none

/-- What may stand before a mark: nothing, or a bullet with a space or a tab behind it and any white space after that. -/
inductive Bullet : List Char → Prop
  | none : Bullet []
  | mark {c sep : Char} {gap : List Char} (hc : c = '-' ∨ c = '*' ∨ c = '+') (hsep : sep = ' ' ∨ sep = '\t')
      (hgap : gap.all isBlank = true) : Bullet (c :: sep :: gap)

inductive Mark : Bool → List Char → Prop
  | unchecked : Mark false ['[', ' ', ']']
  | checked : Mark true ['[', 'x', ']']
  | capital : Mark true ['[', 'X', ']']

/-- The text carries a checkbox in this state, with the rest behind it. -/
inductive Carries : List Char → Bool → List Char → Prop
  | intro {lead bullet mark tail : List Char} {checked : Bool} (hlead : lead.all isBlank = true)
      (hbullet : Bullet bullet) (hmark : Mark checked mark)
      (htail : tail = [] ∨ ∃ c cs, tail = c :: cs ∧ isBlank c = true) :
      Carries (lead ++ bullet ++ mark ++ tail) checked (trimStart tail)

theorem dropBullet_eq_some_iff :
    dropBullet cs = some ('[' :: rest) ↔ ∃ bullet, Bullet bullet ∧ cs = bullet ++ '[' :: rest := by
  constructor
  · intro h
    cases cs with
    | nil => cases h
    | cons c cs =>
        cases hc : isBullet c with
        | false =>
            rw [dropBullet_of_not_bullet hc] at h
            exact ⟨[], .none, Option.some.inj h⟩
        | true =>
            rw [dropBullet_of_bullet hc] at h
            split at h
            · next hsep =>
                obtain ⟨gap, hgap, rfl, -⟩ := trimStart_eq_cons_iff.1 (Option.some.inj h)
                cases gap with
                | nil => simp at hsep
                | cons sep gap =>
                    rw [List.all_cons, Bool.and_eq_true] at hgap
                    rw [List.cons_append, List.head?_cons, Option.some_inj, Option.some_inj] at hsep
                    exact ⟨c :: sep :: gap, .mark (isBullet_iff.1 hc) hsep hgap.2, rfl⟩
            · cases h
  · rintro ⟨bullet, hbullet, rfl⟩
    cases hbullet with
    | none => exact dropBullet_of_not_bullet rfl rest
    | @mark c sep gap hc hsep hgap =>
        have hblank : isBlank sep = true := by
          rcases hsep with rfl | rfl
          · rfl
          · rfl
        have htrim : trimStart (sep :: gap ++ '[' :: rest) = '[' :: rest :=
          trimStart_eq_cons_iff.2 ⟨sep :: gap, by rw [List.all_cons, hblank, hgap]; rfl, rfl, rfl⟩
        rw [List.cons_append, dropBullet_of_bullet (isBullet_iff.2 hc), List.cons_append, List.head?_cons, if_pos,
          ← List.cons_append, htrim]
        simpa using hsep

theorem mark_eq_some_iff : mark cs = some (checked, rest) ↔ ∃ m, Mark checked m ∧ cs = m ++ rest := by
  constructor
  · intro h
    unfold mark at h
    split at h
    · cases h
      exact ⟨_, .unchecked, rfl⟩
    · cases h
      exact ⟨_, .checked, rfl⟩
    · cases h
      exact ⟨_, .capital, rfl⟩
    · cases h
  · rintro ⟨m, hm, rfl⟩
    cases hm with
    | unchecked | checked | capital => rfl

theorem endsWord_iff {tail : List Char} : endsWord tail = true ↔ tail = [] ∨ ∃ c cs, tail = c :: cs ∧ isBlank c = true := by
  cases tail with
  | nil => simp [endsWord]
  | cons c cs => simp [endsWord]

theorem Mark.brackets {m : List Char} (h : Mark checked m) : ∃ c, m = ['[', c, ']'] := by
  cases h with
  | unchecked | checked | capital => exact ⟨_, rfl⟩

theorem Bullet.trimStart_append {bullet : List Char} (h : Bullet bullet) {lead : List Char}
    (hlead : lead.all isBlank = true) (more : List Char) :
    trimStart (lead ++ (bullet ++ '[' :: more)) = bullet ++ '[' :: more := by
  cases h with
  | none => exact trimStart_eq_cons_iff.2 ⟨lead, hlead, rfl, rfl⟩
  | mark hc =>
      refine trimStart_eq_cons_iff.2 ⟨lead, hlead, rfl, ?_⟩
      rcases hc with rfl | rfl | rfl
      · rfl
      · rfl
      · rfl

theorem carries_of_split (h : split cs = some (checked, rest)) : Carries cs checked rest := by
  obtain ⟨item, tail, hitem, hmark, hends, rfl⟩ := split_eq_some_iff.1 h
  obtain ⟨m, hm, rfl⟩ := mark_eq_some_iff.1 hmark
  obtain ⟨c, rfl⟩ := hm.brackets
  rw [List.cons_append] at hitem
  obtain ⟨bullet, hbullet, htrim⟩ := dropBullet_eq_some_iff.1 hitem
  have hcs : cs = cs.takeWhile isBlank ++ bullet ++ ['[', c, ']'] ++ tail := by
    rw [List.append_assoc, List.append_assoc, List.cons_append, ← htrim, trimStart, List.takeWhile_append_dropWhile]
  rw [hcs]
  exact .intro List.all_takeWhile hbullet hm (endsWord_iff.1 hends)

theorem split_of_carries (h : Carries cs checked rest) : split cs = some (checked, rest) := by
  cases h with
  | @intro lead bullet m tail _ hlead hbullet hm htail =>
      have hmark : mark (m ++ tail) = some (checked, tail) := mark_eq_some_iff.2 ⟨m, hm, rfl⟩
      obtain ⟨c, rfl⟩ := hm.brackets
      have htrim : trimStart (lead ++ bullet ++ ['[', c, ']'] ++ tail) = bullet ++ '[' :: ([c, ']'] ++ tail) := by
        rw [List.append_assoc, List.append_assoc, List.cons_append]
        exact hbullet.trimStart_append hlead _
      refine split_eq_some_iff.2 ⟨['[', c, ']'] ++ tail, tail, ?_, hmark, endsWord_iff.2 htail, rfl⟩
      rw [htrim]
      exact dropBullet_eq_some_iff.2 ⟨bullet, hbullet, rfl⟩

theorem split_of_mark {c : Char} (hmark : Mark checked ['[', c, ']']) {tail : List Char} (htail : endsWord tail = true) :
    split ('-' :: ' ' :: '[' :: c :: ']' :: tail) = some (checked, trimStart tail) :=
  split_of_carries (@Carries.intro [] ['-', ' '] _ tail _ rfl (.mark (.inl rfl) (.inl rfl) rfl) hmark (endsWord_iff.1 htail))

theorem Carries.suffix (h : Carries cs checked rest) : rest <:+ cs := by
  cases h with
  | intro => exact (List.dropWhile_suffix _).trans (List.suffix_append _ _)

theorem split_eq_none (h : '[' ∉ cs) : split cs = none := by
  rw [Option.eq_none_iff_forall_ne_some]
  rintro ⟨checked, rest⟩ hsplit
  cases carries_of_split hsplit with
  | intro _ _ hmark =>
      obtain ⟨c, rfl⟩ := hmark.brackets
      exact h (by simp)

/-- An item is read as carrying a checkbox just when it is of that form, of which no text has two readings. -/
theorem split_iff_carries (cs : List Char) :
    (∀ checked rest, split cs = some (checked, rest) ↔ Carries cs checked rest) ∧
      (∀ checked rest checked' rest', Carries cs checked rest → Carries cs checked' rest' →
        checked = checked' ∧ rest = rest') ∧
      (split cs = none ↔ ∀ checked rest, ¬Carries cs checked rest) := by
  have hiff (checked : Bool) (rest : List Char) : split cs = some (checked, rest) ↔ Carries cs checked rest :=
    ⟨carries_of_split, split_of_carries⟩
  refine ⟨hiff, fun checked rest checked' rest' h h' => ?_, ?_⟩
  · have hpair := Option.some.inj ((split_of_carries h).symm.trans (split_of_carries h'))
    exact Prod.mk.inj hpair
  · rw [Option.eq_none_iff_forall_ne_some, Prod.forall]
    exact forall₂_congr fun checked rest => not_congr (hiff checked rest)

theorem split_iff_carries_spaced :
    Carries "\u3000*\t\u00A0[X]\u2003[ ] Staff".toList true "[ ] Staff".toList ∧
      ∀ checked rest, Carries "\u3000*\t\u00A0[X]\u2003[ ] Staff".toList checked rest →
        true = checked ∧ "[ ] Staff".toList = rest := by
  have h : Carries "\u3000*\t\u00A0[X]\u2003[ ] Staff".toList true "[ ] Staff".toList :=
    @Carries.intro ['\u3000'] ['*', '\t', '\u00A0'] ['[', 'X', ']'] "\u2003[ ] Staff".toList true rfl
      (.mark (.inr (.inl rfl)) (.inr rfl) rfl) .capital (.inr ⟨_, _, rfl, rfl⟩)
  exact ⟨h, fun checked rest => (split_iff_carries _).2.1 true _ checked rest h⟩

end Checkbox

end FlagSheet
