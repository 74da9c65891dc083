import FlagSheet.Proofs.Slug.Case
import Mathlib.Data.List.Chain

namespace FlagSheet

namespace Text

/-- No range of the first kind meets one of the second kind. -/
def apart : List Nat → List Nat → Bool
  | lo :: hi :: rest, bounds => misses bounds lo (hi - 1) && apart rest bounds
  | _, _ => true

theorem within_of_apart {n : Nat} {bounds : List Nat} :
    ∀ {others : List Nat}, apart others bounds = true → within others n = true → within bounds n = false
  | [], _, h | [_], _, h => by cases h
  | lo :: hi :: rest, hapart, h => by
      rw [apart, Bool.and_eq_true] at hapart
      simp only [within, Bool.and_eq_true, Bool.or_eq_true, decide_eq_true_eq] at h
      obtain ⟨hlo, hhi | hrest⟩ := h
      · exact within_of_misses hlo (by omega) hapart.1
      · exact within_of_apart hapart.2 hrest

theorem apart_blank : apart blankBounds alphanumericBounds = true := by decide +kernel

theorem isBlank_of_isAlphanumeric {c : Char} (h : isAlphanumeric c = true) : isBlank c = false := by
  rw [Bool.eq_false_iff]
  intro hblank
  rw [isAlphanumeric, within_of_apart apart_blank hblank] at h
  cases h
end Text

open Text

namespace Slug

def IsSmall (c : Char) : Prop := isAlphanumeric c = true ∧ lower c = [c]

structure Canonical (cs : List Char) : Prop where
  chars : ∀ c ∈ cs, c = '-' ∨ IsSmall c
  head : cs.head? ≠ some '-'
  last : cs.getLast? ≠ some '-'
  single : cs.IsChain fun a b => a = '-' → b ≠ '-'

variable {cs : List Char} {started pending : Bool}

theorem ne_of_isAlphanumeric {c d : Char} (hc : isAlphanumeric c = true) (hd : isAlphanumeric d = false) : c ≠ d := by
  rintro rfl
  rw [hd] at hc
  cases hc

theorem ne_hyphen_of_isAlphanumeric {c : Char} (h : isAlphanumeric c = true) : c ≠ '-' :=
  ne_of_isAlphanumeric h isAlphanumeric_hyphen

theorem mem_join {c : Char} (h : c ∈ join started pending cs) : c = '-' ∨ isAlphanumeric c = true ∧ c ∈ cs := by
  fun_induction join started pending cs with
  | case1 => cases h
  | case2 started pending d cs _ ih | case5 started pending d cs _ _ ih =>
      exact (ih h).imp_right fun ⟨hc, hmem⟩ => ⟨hc, List.mem_cons_of_mem d hmem⟩
  | case3 started pending d cs _ hd _ ih =>
      rcases List.mem_cons.1 h with rfl | h
      · exact .inl rfl
      · rcases List.mem_cons.1 h with rfl | h
        · exact .inr ⟨hd, List.mem_cons_self⟩
        · exact (ih h).imp_right fun ⟨hc, hmem⟩ => ⟨hc, List.mem_cons_of_mem d hmem⟩
  | case4 started pending d cs _ hd _ ih =>
      rcases List.mem_cons.1 h with rfl | h
      · exact .inr ⟨hd, List.mem_cons_self⟩
      · exact (ih h).imp_right fun ⟨hc, hmem⟩ => ⟨hc, List.mem_cons_of_mem d hmem⟩

/-- A hyphen is only ever written when a character has been kept before. -/
theorem head?_join (pending : Bool) (cs : List Char) : (join false pending cs).head? ≠ some '-' := by
  induction cs generalizing pending with
  | nil => exact nofun
  | cons c cs ih =>
      rw [join]
      split
      · exact ih true
      · split
        · next hc => exact fun h => ne_hyphen_of_isAlphanumeric hc (Option.some.inj h)
        · exact ih pending

theorem getLast?_cons_join {c : Char} (hc : isAlphanumeric c = true)
    (h : (join true false cs).getLast? ≠ some '-') : (c :: join true false cs).getLast? ≠ some '-' := by
  rw [List.getLast?_cons]
  cases hlast : (join true false cs).getLast? with
  | none => exact fun heq => ne_hyphen_of_isAlphanumeric hc (Option.some.inj heq)
  | some d => rwa [hlast] at h

theorem getLast?_join : (join started pending cs).getLast? ≠ some '-' := by
  fun_induction join started pending cs with
  | case1 => exact nofun
  | case2 started pending c cs _ ih | case5 started pending c cs _ _ ih => exact ih
  | case3 started pending c cs _ hc _ ih =>
      rw [List.getLast?_cons_cons]
      exact getLast?_cons_join hc ih
  | case4 started pending c cs _ hc _ ih => exact getLast?_cons_join hc ih

theorem isChain_join : (join started pending cs).IsChain fun a b => a = '-' → b ≠ '-' := by
  have hcons {c : Char} (hc : isAlphanumeric c = true) {ds : List Char} (h : ds.IsChain fun a b => a = '-' → b ≠ '-') :
      (c :: ds).IsChain fun a b => a = '-' → b ≠ '-' :=
    List.isChain_cons.2 ⟨fun _ _ heq => absurd heq (ne_hyphen_of_isAlphanumeric hc), h⟩
  fun_induction join started pending cs with
  | case1 => exact .nil
  | case2 started pending c cs _ ih | case5 started pending c cs _ _ ih => exact ih
  | case3 started pending c cs _ hc _ ih =>
      exact .cons_cons (fun _ => ne_hyphen_of_isAlphanumeric hc) (hcons hc ih)
  | case4 started pending c cs _ hc _ ih => exact hcons hc ih

theorem canonical_ofChars (cs : List Char) : Canonical (ofChars cs) where
  chars := by
    intro c hc
    refine (mem_join hc).imp_right fun ⟨halpha, hmem⟩ => ⟨halpha, ?_⟩
    obtain ⟨d, -, hd⟩ := List.mem_flatMap.1 hmem
    exact lower_of_mem_lower hd
  head := head?_join false _
  last := getLast?_join
  single := isChain_join

theorem canonical_slugify (name : String) : Canonical (slugify name).toList := by
  rw [slugify, String.toList_ofList]
  exact canonical_ofChars name.toList

theorem isSeparator_of_isAlphanumeric {c : Char} (h : isAlphanumeric c = true) : isSeparator c = false := by
  simp [isSeparator, isBlank_of_isAlphanumeric h, ne_hyphen_of_isAlphanumeric h,
    ne_of_isAlphanumeric h (show isAlphanumeric '_' = false from rfl)]

theorem join_of_canonical (hchars : ∀ c ∈ cs, c = '-' ∨ IsSmall c) (hlast : cs.getLast? ≠ some '-')
    (hsingle : cs.IsChain fun a b => a = '-' → b ≠ '-') :
    join true false cs = cs ∧ (cs ≠ [] → cs.head? ≠ some '-' → join true true cs = '-' :: cs) := by
  induction cs with
  | nil => exact ⟨rfl, fun h => absurd rfl h⟩
  | cons c cs ih =>
      rw [List.forall_mem_cons] at hchars
      have hlast' : cs.getLast? ≠ some '-' := by
        cases cs with
        | nil => exact nofun
        | cons d cs => rwa [List.getLast?_cons_cons] at hlast
      obtain ⟨hkept, hjoined⟩ := ih hchars.2 hlast' hsingle.of_cons
      rcases hchars.1 with rfl | ⟨halpha, -⟩
      · refine ⟨?_, fun _ h => absurd rfl h⟩
        have hne : cs ≠ [] := by
          rintro rfl
          exact hlast rfl
        have hhead : cs.head? ≠ some '-' := fun h => (List.isChain_cons.1 hsingle).1 _ h rfl rfl
        exact hjoined hne hhead
      · simp [join, isSeparator_of_isAlphanumeric halpha, halpha, hkept]

theorem Canonical.isBlank (h : Canonical cs) : ∀ c ∈ cs, isBlank c = false := by
  intro c hc
  obtain rfl | hsmall := h.chars c hc
  · rfl
  · exact isBlank_of_isAlphanumeric hsmall.1

theorem Canonical.lower (h : Canonical cs) : ∀ c ∈ cs, lower c = [c] := by
  intro c hc
  obtain rfl | hsmall := h.chars c hc
  · exact lower_of_lt (by decide)
  · exact hsmall.2

theorem Canonical.head_small {c : Char} (h : Canonical (c :: cs)) : IsSmall c :=
  (h.chars c List.mem_cons_self).resolve_left fun heq => h.head (congrArg some heq)

theorem Canonical.not_mem (h : Canonical cs) {c : Char} (hc : isAlphanumeric c = false) (hhyphen : c ≠ '-') : c ∉ cs :=
  fun hmem => ne_of_isAlphanumeric ((h.chars c hmem).resolve_left hhyphen).1 hc rfl

theorem stripMarkup_of_canonical (h : Canonical cs) : stripMarkup cs = cs := by
  have htight : Tight cs :=
    ⟨fun c hc => h.isBlank c (List.mem_of_head? hc), fun c hc => h.isBlank c (List.mem_of_getLast? hc)⟩
  have hmarks : cs.dropWhile (· = '#') = cs := by
    rw [List.dropWhile_eq_self_iff]
    intro hlen hmark
    have hmem : '#' ∈ cs := of_decide_eq_true hmark ▸ List.getElem_mem hlen
    exact h.not_mem rfl (by decide) hmem
  have hsplit : Checkbox.split cs = none := Checkbox.split_eq_none (h.not_mem rfl (by decide))
  rw [stripMarkup, trim_of_tight htight, hmarks, trimStart_of_tight htight, hsplit]
  rfl

theorem ofChars_of_canonical (h : Canonical cs) : ofChars cs = cs := by
  have hlower : cs.flatMap Text.lower = cs :=
    (List.flatMap_congr h.lower).trans (List.flatMap_singleton' cs)
  rw [ofChars, stripMarkup_of_canonical h, hlower]
  cases cs with
  | nil => rfl
  | cons c cs =>
      have hkept := (join_of_canonical h.chars h.last h.single).1
      have halpha := h.head_small.1
      rw [join, isSeparator_of_isAlphanumeric halpha, if_neg Bool.false_ne_true, if_pos halpha] at hkept ⊢
      exact hkept

theorem ofChars_ofChars (cs : List Char) : ofChars (ofChars cs) = ofChars cs := ofChars_of_canonical (canonical_ofChars cs)

end Slug

theorem slugify_slugify (name : String) : slugify (slugify name) = slugify name := by
  rw [slugify, slugify, String.toList_ofList, Slug.ofChars_ofChars]

theorem slugify_eq_self_iff {name : String} : slugify name = name ↔ Slug.Canonical name.toList := by
  constructor
  · intro h
    rw [← h]
    exact Slug.canonical_slugify name
  · intro h
    rw [slugify, Slug.ofChars_of_canonical h, String.ofList_toList]

/-- Slugs are canonical texts, and all of them, since each is its own slug. Names that differ in the case of ASCII letters
alone have the same one. -/
theorem slugify_retracts (name : String) :
    Slug.Canonical (slugify name).toList ∧ (slugify name = name ↔ Slug.Canonical name.toList) ∧
      ∀ other : String, sameAscii name.toList other.toList = true → slugify name = slugify other :=
  ⟨Slug.canonical_slugify name, slugify_eq_self_iff, fun _ => slugify_of_sameAscii⟩

theorem slugify_retracts_marked :
    sameAscii "## [x] \u0130_CAF\u00C9-Menu ".toList "## [X] \u0130_caf\u00C9-mENU ".toList = true ∧
      slugify "## [x] \u0130_CAF\u00C9-Menu " = slugify "## [X] \u0130_caf\u00C9-mENU " :=
  ⟨by decide +kernel, (slugify_retracts _).2.2 _ (by decide +kernel)⟩

example : slugify "## [x] \u0130_CAF\u00C9-Menu " = "i-caf\u00E9-menu" := by decide +kernel

end FlagSheet
