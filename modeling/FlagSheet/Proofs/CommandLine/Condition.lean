import FlagSheet.CommandLine.Run
import FlagSheet.Proofs.Document.Naming

namespace FlagSheet

open Text

namespace CommandLine

/-- The name stands before the first equals sign and the outcome behind it, each with white space around it at will. -/
def Assigns (text name : String) (outcome : Bool) : Prop :=
  ∃ front back, text.toList = front ++ '=' :: back ∧ '=' ∉ front ∧ (∃ c ∈ front, isBlank c = false) ∧
    name = String.ofList (trim front) ∧ trim back = (if outcome then "true" else "false").toList

theorem content?_eq_some_iff {s name : String} :
    content? s = some name ↔ (∃ c ∈ s.toList, isBlank c = false) ∧ name = trimmed s := by
  have hblank : (∃ c ∈ s.toList, isBlank c = false) ↔ allBlank s = false := by rw [allBlank, List.all_eq_false]; simp
  rw [hblank, content?]
  cases allBlank s <;> simp [eq_comm]

variable {text name : String} {front back : List Char}

theorem condition?_of_not_mem (h : '=' ∉ text.toList) : condition? text = none := by
  have hdrop : text.toList.dropWhile (· ≠ '=') = [] := by
    rw [List.dropWhile_eq_nil_iff]
    exact fun c hc => decide_eq_true fun heq => h (heq ▸ hc)
  rw [condition?, hdrop]

theorem condition?_of_split (htext : text.toList = front ++ '=' :: back) (hfront : '=' ∉ front) :
    condition? text = (content? (String.ofList front)).bind fun name =>
      match String.ofList (trim back) with
      | "true" => some (name, true)
      | "false" => some (name, false)
      | _ => none := by
  have hnot : ∀ c ∈ front, decide (c ≠ '=') = true := fun c hc => decide_eq_true fun heq => hfront (heq ▸ hc)
  have hdrop : text.toList.dropWhile (· ≠ '=') = '=' :: back := by
    rw [htext, List.dropWhile_append_of_pos hnot]
    rfl
  have htake : text.toList.takeWhile (· ≠ '=') = front := by
    rw [htext, List.takeWhile_append_of_pos hnot]
    exact List.append_nil front
  rw [condition?, hdrop, htake]
  cases content? (String.ofList front) <;> rfl

theorem outcome?_eq_some_iff {p : String × Bool} :
    (match String.ofList (trim back) with
      | "true" => some (name, true)
      | "false" => some (name, false)
      | _ => none) = some p ↔
      name = p.1 ∧ trim back = (if p.2 then "true" else "false").toList := by
  obtain ⟨name', outcome⟩ := p
  have hlist (s : String) : trim back = s.toList ↔ String.ofList (trim back) = s := by
    rw [← String.toList_inj, String.toList_ofList]
  rw [hlist]
  split
  · next h => cases outcome <;> simp [h]
  · next h => cases outcome <;> simp [h]
  · next htrue hfalse =>
      cases outcome with
      | false => exact ⟨nofun, fun h => absurd h.2 hfalse⟩
      | true => exact ⟨nofun, fun h => absurd h.2 htrue⟩

theorem condition?_eq_some_iff {outcome : Bool} :
    condition? text = some (name, outcome) ↔ Assigns text name outcome := by
  constructor
  · intro h
    by_cases hmem : '=' ∈ text.toList
    · obtain ⟨front, back, htext, hfront⟩ := List.eq_append_cons_of_mem hmem
      rw [condition?_of_split htext hfront, Option.bind_eq_some_iff] at h
      obtain ⟨name', hname', h⟩ := h
      obtain ⟨rfl, hback⟩ := outcome?_eq_some_iff.1 h
      obtain ⟨hcontent, rfl⟩ := content?_eq_some_iff.1 hname'
      rw [String.toList_ofList] at hcontent
      exact ⟨front, back, htext, hfront, hcontent, by rw [trimmed, String.toList_ofList], hback⟩
    · rw [condition?_of_not_mem hmem] at h
      cases h
  · rintro ⟨front, back, htext, hfront, hcontent, rfl, hback⟩
    rw [condition?_of_split htext hfront, Option.bind_eq_some_iff]
    refine ⟨_, content?_eq_some_iff.2 ⟨by rwa [String.toList_ofList], rfl⟩, ?_⟩
    exact outcome?_eq_some_iff.2 ⟨by rw [trimmed, String.toList_ofList], hback⟩

/-- Some of the texts are about the condition with this slug, and the last one of them says that it holds. -/
def Grants (texts : List String) (slug : String) : Prop :=
  ∃ before text after name, texts = before ++ text :: after ∧ Assigns text name true ∧ slugify name = slug ∧
    ∀ later ∈ after, ∀ name outcome, Assigns later name outcome → slugify name ≠ slug

theorem grants_snoc {texts : List String} {text slug : String} :
    Grants (texts ++ [text]) slug ↔ (∃ name, Assigns text name true ∧ slugify name = slug) ∨
      (∀ name outcome, Assigns text name outcome → slugify name ≠ slug) ∧ Grants texts slug := by
  constructor
  · rintro ⟨before, t, after, name, hsplit, ht, hname, hafter⟩
    rcases List.eq_nil_or_concat after with rfl | ⟨after, last, rfl⟩
    · obtain ⟨-, htext⟩ := List.append_inj' hsplit rfl
      obtain rfl := (List.cons.inj htext).1
      exact .inl ⟨name, ht, hname⟩
    · rw [List.concat_eq_append] at hsplit hafter
      rw [← List.cons_append, ← List.append_assoc] at hsplit
      obtain ⟨hbefore, htext⟩ := List.append_inj' hsplit rfl
      obtain rfl := (List.cons.inj htext).1
      refine .inr ⟨hafter _ (by simp), before, t, after, name, hbefore, ht, hname, ?_⟩
      exact fun later hlater => hafter later (List.mem_append_left _ hlater)
  · rintro (⟨name, ht, hname⟩ | ⟨hother, before, t, after, name, rfl, ht, hname, hafter⟩)
    · exact ⟨texts, text, [], name, rfl, ht, hname, nofun⟩
    · refine ⟨before, t, after ++ [text], name, by simp, ht, hname, ?_⟩
      intro later hlater
      rcases List.mem_append.1 hlater with hlater | hlater
      · exact hafter later hlater
      · rw [List.mem_singleton.1 hlater]
        exact hother

theorem grants_snoc_of_none {texts : List String} {text slug : String} (h : condition? text = none) :
    Grants (texts ++ [text]) slug ↔ Grants texts slug := by
  have hnot (name : String) (outcome : Bool) : ¬Assigns text name outcome := by
    rw [← condition?_eq_some_iff, h]
    exact nofun
  rw [grants_snoc]
  constructor
  · rintro (⟨name, ht, -⟩ | ⟨-, hgrants⟩)
    · exact absurd ht (hnot name true)
    · exact hgrants
  · exact fun hgrants => .inr ⟨fun name outcome ht => absurd ht (hnot name outcome), hgrants⟩

theorem grants_snoc_of_some {texts : List String} {text name slug : String} {outcome : Bool}
    (h : condition? text = some (name, outcome)) :
    Grants (texts ++ [text]) slug ↔ if slug = slugify name then outcome = true else Grants texts slug := by
  have htold : Assigns text name outcome := condition?_eq_some_iff.1 h
  have hassigns {name' : String} {outcome' : Bool} (h' : Assigns text name' outcome') :
      name' = name ∧ outcome' = outcome := by
    rw [← condition?_eq_some_iff, h, Option.some_inj] at h'
    exact Prod.mk.inj h'.symm
  rw [grants_snoc]
  split
  · next hslug =>
      constructor
      · rintro (⟨name', ht, -⟩ | ⟨hother, -⟩)
        · exact (hassigns ht).2.symm
        · exact absurd hslug.symm (hother name outcome htold)
      · rintro rfl
        exact .inl ⟨name, htold, hslug.symm⟩
  · next hslug =>
      have hother {name' : String} {outcome' : Bool} (ht : Assigns text name' outcome') : slugify name' ≠ slug := by
        rw [(hassigns ht).1]
        exact fun heq => hslug heq.symm
      constructor
      · rintro (⟨name', ht, heq⟩ | ⟨-, hgrants⟩)
        · exact absurd heq (hother ht)
        · exact hgrants
      · exact fun hgrants => .inr ⟨fun _ _ => hother, hgrants⟩

theorem not_grants_nil (slug : String) : ¬Grants [] slug := by
  rintro ⟨before, text, after, name, hsplit, -⟩
  simp at hsplit

theorem outcomes_snoc (conditions : List (String × Bool)) (name : String) (outcome : Bool) :
    Command.outcomes (conditions ++ [(name, outcome)]) =
      (Command.outcomes conditions).register ⟨name, fun _ => outcome⟩ := by
  rw [Command.outcomes, List.map_append, Registry.ofPredicates, List.foldl_append]
  rfl

theorem meets_register_of_ne {r : Registry} {p : Predicate} {c : Context} {condition : Condition}
    (h : condition.slug ≠ slugify p.name) : (r.register p).Meets c condition ↔ r.Meets c condition := by
  rw [Registry.Meets, Registry.register, SlugMap.get?_insert, if_neg h, Registry.Meets]

theorem meets_outcomes_iff {texts : List String} {c : Context} {condition : Condition} :
    (Command.outcomes (texts.filterMap condition?)).Meets c condition ↔ Grants texts condition.slug := by
  induction texts using List.reverseRecOn with
  | nil =>
      refine ⟨?_, fun h => absurd h (not_grants_nil _)⟩
      rintro ⟨p, hp, -⟩
      cases hp
  | append_singleton texts text ih =>
      rw [List.filterMap_append]
      cases htext : condition? text with
      | none => rw [grants_snoc_of_none htext, List.filterMap_cons_none htext, List.filterMap_nil, List.append_nil, ih]
      | some p =>
          obtain ⟨name, outcome⟩ := p
          rw [grants_snoc_of_some htext, List.filterMap_cons_some htext, List.filterMap_nil, outcomes_snoc]
          split
          · next hslug => exact Registry.meets_register (p := ⟨name, fun _ => outcome⟩) hslug
          · next hslug => rw [meets_register_of_ne (p := ⟨name, fun _ => outcome⟩) hslug, ih]

end CommandLine

end FlagSheet
