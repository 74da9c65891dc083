import FlagSheet.Proofs.Text.Trim
import FlagSheet.Text.Lowercase

namespace FlagSheet.Text

def misses : List Nat → Nat → Nat → Bool
  | lo :: hi :: rest, first, last => (last < lo || hi ≤ first) && misses rest first last
  | _, _, _ => true

theorem within_of_misses {first last n : Nat} (hfirst : first ≤ n) (hlast : n ≤ last) :
    ∀ {bounds : List Nat}, misses bounds first last = true → within bounds n = false
  | [], _ | [_], _ => rfl
  | lo :: hi :: rest, h => by
      simp only [misses, Bool.and_eq_true, Bool.or_eq_true, decide_eq_true_eq] at h
      obtain ⟨hrange, hrest⟩ := h
      rw [within, within_of_misses hfirst hlast hrest, Bool.or_false, Bool.and_eq_false_iff,
        decide_eq_false_iff_not, decide_eq_false_iff_not]
      omega

theorem caseBands_targets : ∀ b ∈ caseBands,
    0x5A < b.target ∧ misses blankBounds b.target (b.target + (b.last - b.first)) = true := by
  decide +kernel

theorem toNat_ofNat_eq (n : Nat) : (Char.ofNat n).toNat = n ∨ (Char.ofNat n).toNat = 0 := by
  by_cases hn : n.isValidChar
  · rw [Char.ofNat, dif_pos hn]
    exact .inl rfl
  · rw [Char.ofNat, dif_neg hn]
    exact .inr rfl

theorem toLower_eq_self {c : Char} (h : c.toNat < 0x41 ∨ 0x5A < c.toNat) : c.toLower = c := by
  unfold Char.toLower
  rw [dif_neg]
  rintro ⟨hlo, hhi⟩
  have hlo' : 0x41 ≤ c.toNat := hlo
  have hhi' : c.toNat ≤ 0x5A := hhi
  omega

theorem lowerCode_of_find?_none {n : Nat} (h : caseBands.find? (·.contains n) = none) :
    lowerCode n = n ∧ (n < 0x41 ∨ 0x5A < n) := by
  refine ⟨by rw [lowerCode, h], ?_⟩
  have hband := List.find?_eq_none.1 h ⟨0x41, 0x5A, 1, 0x61⟩ List.mem_cons_self
  simp only [CaseBand.contains, Nat.mod_one, decide_true, Bool.and_true, Bool.and_eq_true, decide_eq_true_eq] at hband
  omega

theorem lowerCode_of_find?_some {n : Nat} {b : CaseBand} (h : caseBands.find? (·.contains n) = some b) :
    0x5A < lowerCode n ∧ within blankBounds (lowerCode n) = false := by
  obtain ⟨htarget, hmisses⟩ := caseBands_targets b (List.mem_of_find?_eq_some h)
  have hcontains := List.find?_some h
  simp only [CaseBand.contains, Bool.and_eq_true, decide_eq_true_eq] at hcontains
  have hcode : lowerCode n = b.target + (n - b.first) := by rw [lowerCode, h]; rfl
  rw [hcode]
  exact ⟨by omega, within_of_misses (by omega) (by omega) hmisses⟩

theorem lower_ne_nil (c : Char) : lower c ≠ [] := by
  unfold lower
  split <;> simp

theorem mem_lower {c d : Char} (h : d ∈ lower c) :
    d = 'i' ∨ d = '\u0307' ∨ d = Char.ofNat (lowerCode c.toNat) := by
  unfold lower at h
  split at h
  · rcases List.mem_cons.1 h with h | h
    · exact .inl h
    · exact .inr (.inl (List.mem_singleton.1 h))
  · exact .inr (.inr (List.mem_singleton.1 h))

theorem toLower_of_mem_lower {c d : Char} (h : d ∈ lower c) : d.toLower = d := by
  obtain rfl | rfl | rfl := mem_lower h
  · rfl
  · rfl
  · apply toLower_eq_self
    cases hband : caseBands.find? (·.contains c.toNat) with
    | none =>
        obtain ⟨hcode, hrange⟩ := lowerCode_of_find?_none hband
        rw [hcode, Char.ofNat_toNat]
        exact hrange
    | some b =>
        have hcode := (lowerCode_of_find?_some hband).1
        rcases toNat_ofNat_eq (lowerCode c.toNat) with hn | hn <;> omega

theorem isBlank_of_mem_lower {c d : Char} (hc : isBlank c = false) (h : d ∈ lower c) : isBlank d = false := by
  obtain rfl | rfl | rfl := mem_lower h
  · rfl
  · rfl
  · cases hband : caseBands.find? (·.contains c.toNat) with
    | none =>
        rw [(lowerCode_of_find?_none hband).1, Char.ofNat_toNat]
        exact hc
    | some b =>
        unfold isBlank
        rcases toNat_ofNat_eq (lowerCode c.toNat) with hn | hn
        · rw [hn]
          exact (lowerCode_of_find?_some hband).2
        · rw [hn]
          decide

/-- A code point that the first band maps to is none that the second one maps: their ranges do not meet, or they count
in steps of two, one the even and the other the odd code points. -/
def CaseBand.apart (b b' : CaseBand) : Bool :=
  Nat.blt b'.last b.target || Nat.blt (b.target + (b.last - b.first)) b'.first ||
    (Nat.beq b'.stride 2 && (Nat.beq b.stride 2 || Nat.beq b.first b.last) && !Nat.beq (b.target % 2) (b'.first % 2))

theorem caseBands_apart : (caseBands.all fun b => caseBands.all b.apart) = true := by
  decide +kernel

theorem caseBands_ranges : ∀ b ∈ caseBands, misses blankBounds b.first (b.last + 1) = true ∧ 0x41 ≤ b.first ∧
    (0x130 < b.target ∨ b.target + (b.last - b.first) < 0x130) := by
  decide +kernel

theorem CaseBand.contains_lower {b b' : CaseBand} (h : b.apart b' = true) {n : Nat} (hn : b.contains n = true) :
    b'.contains (b.lower n) = false := by
  simp only [apart, Bool.or_eq_true, Bool.and_eq_true, Nat.blt_eq, Nat.beq_eq, Bool.not_eq_true', ← Bool.not_eq_true] at h
  simp only [contains, Bool.and_eq_true, decide_eq_true_eq] at hn
  obtain ⟨⟨hfirst, hlast⟩, hstride⟩ := hn
  rw [Bool.eq_false_iff]
  intro hcontains
  simp only [contains, Bool.and_eq_true, decide_eq_true_eq] at hcontains
  obtain ⟨⟨hfirst', hlast'⟩, hstride'⟩ := hcontains
  rw [lower] at hfirst' hlast' hstride'
  rcases h with (h | h) | ⟨⟨h2, h | h⟩, hparity⟩
  · omega
  · omega
  · rw [h] at hstride
    rw [h2] at hstride'
    omega
  · rw [h2] at hstride'
    omega

theorem find?_lower {b : CaseBand} (hb : b ∈ caseBands) {n : Nat} (hn : b.contains n = true) :
    caseBands.find? (·.contains (b.lower n)) = none := by
  rw [List.find?_eq_none]
  intro b' hb'
  have hapart := List.all_eq_true.1 (List.all_eq_true.1 caseBands_apart b hb) b' hb'
  rw [CaseBand.contains_lower hapart hn]
  exact Bool.false_ne_true

theorem lower_of_find?_none {c : Char} (hdotted : c ≠ dottedCapitalI) (h : caseBands.find? (·.contains c.toNat) = none) :
    lower c = [c] := by
  rw [lower, if_neg hdotted, (lowerCode_of_find?_none h).1, Char.ofNat_toNat]

theorem find?_of_lt {n : Nat} (h : n < 0x41) : caseBands.find? (·.contains n) = none := by
  rw [List.find?_eq_none]
  intro b hb hn
  have hfirst := (caseBands_ranges b hb).2.1
  simp only [CaseBand.contains, Bool.and_eq_true, decide_eq_true_eq] at hn
  omega

theorem lower_of_lt {c : Char} (h : c.toNat < 0x41) : lower c = [c] := by
  refine lower_of_find?_none ?_ (find?_of_lt h)
  rintro rfl
  exact absurd h (by decide)

theorem lower_of_isBlank {c : Char} (h : isBlank c = true) : lower c = [c] := by
  refine lower_of_find?_none ?_ ?_
  · rintro rfl
    exact absurd h (by decide)
  · rw [List.find?_eq_none]
    intro b hb hn
    simp only [CaseBand.contains, Bool.and_eq_true, decide_eq_true_eq] at hn
    have hmisses := within_of_misses hn.1.1 (Nat.le_succ_of_le hn.1.2) (caseBands_ranges b hb).1
    rw [isBlank, hmisses] at h
    cases h

theorem lower_beside_bands : lower 'i' = ['i'] ∧ lower '\u0307' = ['\u0307'] ∧ lower '\u03C2' = ['\u03C2'] ∧
    lower '\u03C3' = ['\u03C3'] ∧ lower capitalSigma ≠ [capitalSigma] := by
  decide +kernel

theorem lower_of_mem_lower {c d : Char} (h : d ∈ lower c) : lower d = [d] := by
  obtain rfl | rfl | hd := mem_lower h
  · exact lower_beside_bands.1
  · exact lower_beside_bands.2.1
  · cases hband : caseBands.find? (·.contains c.toNat) with
    | none =>
        rw [(lowerCode_of_find?_none hband).1, Char.ofNat_toNat] at hd
        subst hd
        by_cases hdotted : d = dottedCapitalI
        · subst hdotted
          exact absurd h (by decide)
        · exact lower_of_find?_none hdotted hband
    | some b =>
        have hb := List.mem_of_find?_eq_some hband
        have hcontains := List.find?_some hband
        have hcode : lowerCode c.toNat = b.lower c.toNat := by rw [lowerCode, hband]
        rw [hcode] at hd
        subst hd
        have hrange := hcontains
        simp only [CaseBand.contains, Bool.and_eq_true, decide_eq_true_eq] at hrange
        rcases toNat_ofNat_eq (b.lower c.toNat) with hn | hn
        · refine lower_of_find?_none ?_ (by rw [hn]; exact find?_lower hb hcontains)
          intro hdotted
          have hne := (caseBands_ranges b hb).2.2
          have heq : b.lower c.toNat = 0x130 := hn.symm.trans (congrArg Char.toNat hdotted)
          rw [CaseBand.lower] at heq
          omega
        · exact lower_of_lt (by rw [hn]; decide)

theorem toLower_capital : ∀ k : Fin 26, (Char.ofNat (0x41 + k)).toLower = Char.ofNat (0x61 + k) := by
  decide

theorem lower_of_toLower {c d : Char} (h : c.toLower = d) (hd : lower d = [d]) : lower c = [d] := by
  by_cases hc : c.toNat < 0x41 ∨ 0x5A < c.toNat
  · rw [← h, toLower_eq_self hc] at hd ⊢
    exact hd
  · have hk : c.toNat - 0x41 < 26 := by omega
    have hcode : 0x41 + (c.toNat - 0x41) = c.toNat := by omega
    have hsmall := toLower_capital ⟨c.toNat - 0x41, hk⟩
    dsimp only at hsmall
    rw [hcode, Char.ofNat_toNat, h] at hsmall
    have hband : caseBands.find? (·.contains c.toNat) = some ⟨0x41, 0x5A, 1, 0x61⟩ := by
      apply List.find?_cons_of_pos
      simp only [CaseBand.contains, Nat.mod_one, decide_true, Bool.and_true, Bool.and_eq_true, decide_eq_true_eq]
      omega
    have hdotted : c ≠ dottedCapitalI := by
      rintro rfl
      exact hc (.inr (by decide))
    rw [lower, if_neg hdotted, lowerCode, hband, hsmall]
    rfl

def small (before : List Char) (c : Char) (cs : List Char) : List Char :=
  if c = capitalSigma then [if meetsCased before && !meetsCased cs then '\u03C2' else '\u03C3'] else lower c

theorem lowercaseAfter_cons (before : List Char) (c : Char) (cs : List Char) :
    lowercaseAfter before (c :: cs) = small before c cs ++ lowercaseAfter (c :: before) cs := rfl

theorem small_ne_nil (before : List Char) (c : Char) (cs : List Char) : small before c cs ≠ [] := by
  unfold small
  split
  · simp
  · exact lower_ne_nil c

theorem of_mem_small {before cs : List Char} {c d : Char} (h : d ∈ small before c cs) :
    d.toLower = d ∧ (isBlank c = false → isBlank d = false) := by
  unfold small at h
  split at h
  · rw [List.mem_singleton.1 h]
    split <;> exact ⟨by decide, fun _ => by decide⟩
  · exact ⟨toLower_of_mem_lower h, fun hc => isBlank_of_mem_lower hc h⟩

theorem toLower_of_mem_lowercaseAfter {before cs : List Char} {d : Char} (h : d ∈ lowercaseAfter before cs) :
    d.toLower = d := by
  induction cs generalizing before with
  | nil => cases h
  | cons c cs ih =>
      rcases List.mem_append.1 h with h | h
      · exact (of_mem_small h).1
      · exact ih h

theorem lower_of_mem_lowercaseAfter {before cs : List Char} {d : Char} (h : d ∈ lowercaseAfter before cs) :
    lower d = [d] := by
  induction cs generalizing before with
  | nil => cases h
  | cons c cs ih =>
      rw [lowercaseAfter_cons] at h
      rcases List.mem_append.1 h with h | h
      · unfold small at h
        split at h
        · rw [List.mem_singleton.1 h]
          split
          · exact lower_beside_bands.2.2.1
          · exact lower_beside_bands.2.2.2.1
        · exact lower_of_mem_lower h
      · exact ih h

/-- A text of small letters is the small form of whatever differs from it in the case of ASCII letters. -/
theorem lowercaseAfter_of_toLower {cs ds : List Char} (h : cs.map Char.toLower = ds) (hds : ∀ d ∈ ds, lower d = [d])
    (before : List Char) : lowercaseAfter before cs = ds := by
  induction cs generalizing ds before with
  | nil => exact h
  | cons c cs ih =>
      rw [List.map_cons] at h
      subst h
      rw [List.forall_mem_cons] at hds
      have hsigma : c ≠ capitalSigma := by
        rintro rfl
        exact lower_beside_bands.2.2.2.2 hds.1
      rw [lowercaseAfter_cons, small, if_neg hsigma, lower_of_toLower rfl hds.1, ih rfl hds.2]
      rfl

theorem getLast?_lowercaseAfter {before cs : List Char} (h : ∀ c ∈ cs.getLast?, isBlank c = false) :
    ∀ d ∈ (lowercaseAfter before cs).getLast?, isBlank d = false := by
  induction cs generalizing before with
  | nil => simp [lowercaseAfter]
  | cons c cs ih =>
      intro d hd
      rw [lowercaseAfter_cons, List.getLast?_append] at hd
      cases cs with
      | nil =>
          exact (of_mem_small (List.mem_of_getLast? hd)).2 (h c rfl)
      | cons b cs =>
          rw [List.getLast?_cons_cons] at h
          have hne : lowercaseAfter (c :: before) (b :: cs) ≠ [] := by
            rw [lowercaseAfter_cons]
            exact List.append_ne_nil_of_left_ne_nil (small_ne_nil _ _ _) _
          rw [List.getLast?_eq_some_getLast hne, Option.some_or] at hd
          exact ih h d ((List.getLast?_eq_some_getLast hne).trans hd)

theorem tight_lowercase {cs : List Char} (h : Tight cs) : Tight (lowercase cs) := by
  refine ⟨?_, getLast?_lowercaseAfter h.2⟩
  intro d hd
  cases cs with
  | nil => cases hd
  | cons c cs =>
      obtain ⟨b, bs, hsmall⟩ := List.exists_cons_of_ne_nil (small_ne_nil [] c cs)
      rw [lowercase, lowercaseAfter_cons, hsmall] at hd
      cases hd
      exact (of_mem_small (hsmall ▸ List.mem_cons_self)).2 (h.1 c rfl)

theorem sameAscii_iff {as bs : List Char} (ha : ∀ c ∈ as, c.toLower = c) (hb : ∀ c ∈ bs, c.toLower = c) :
    sameAscii as bs = true ↔ as = bs := by
  have hmap {cs : List Char} (h : ∀ c ∈ cs, c.toLower = c) : cs.map Char.toLower = cs :=
    (List.map_congr_left h).trans (List.map_id cs)
  rw [sameAscii, hmap ha, hmap hb, decide_eq_true_eq]

theorem sameAscii_lowercase_iff {as bs : List Char} :
    sameAscii (lowercase as) bs = true ↔ lowercase as = bs.map Char.toLower := by
  have hsmall : (lowercase as).map Char.toLower = lowercase as :=
    (List.map_congr_left fun c hc => toLower_of_mem_lowercaseAfter hc).trans (List.map_id _)
  rw [sameAscii, hsmall, decide_eq_true_eq]

theorem lowercase_eq_map_iff {cs : List Char} :
    lowercase cs = cs.map Char.toLower ↔ ∀ c ∈ cs, lower c = [c.toLower] := by
  constructor
  · intro h c hc
    have hmem : c.toLower ∈ lowercase cs := h ▸ List.mem_map_of_mem hc
    exact lower_of_toLower rfl (lower_of_mem_lowercaseAfter hmem)
  · intro h
    apply lowercaseAfter_of_toLower rfl
    intro d hd
    obtain ⟨c, hc, rfl⟩ := List.mem_map.1 hd
    exact lower_of_mem_lower (c := c) (h c hc ▸ List.mem_singleton_self _)

theorem lowercase_eq_map_of_lowercase {as bs : List Char} :
    lowercase as = bs.map Char.toLower ↔ lowercase as = lowercase bs ∧ ∀ c ∈ bs, lower c = [c.toLower] := by
  rw [← lowercase_eq_map_iff]
  constructor
  · intro h
    -- What is a small form has no capitals left, and is that of a text that comes to it by the letters of ASCII.
    have hbs : lowercase bs = bs.map Char.toLower :=
      lowercaseAfter_of_toLower rfl (fun d hd => lower_of_mem_lowercaseAfter (h ▸ hd)) []
    exact ⟨h.trans hbs.symm, hbs⟩
  · rintro ⟨h, hbs⟩
    exact h.trans hbs

end FlagSheet.Text
