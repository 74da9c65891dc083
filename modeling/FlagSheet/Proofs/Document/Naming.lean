import FlagSheet.Proofs.Document.Exchange
import FlagSheet.Proofs.Document.Sheet
import FlagSheet.Proofs.Slug

namespace FlagSheet

namespace Text

theorem trimEnd_space (cs : List Char) : Checkbox.endsWord (trimEnd (' ' :: cs)) = true := by
  cases hblank : (' ' :: cs).all isBlank with
  | true =>
      rw [trimEnd_of_blank hblank]
      rfl
  | false =>
      rw [trimEnd_cons_of_not_blank hblank]
      rfl

end Text

open Text

namespace Node

theorem ofChars_dropClosing (cs : List Char) : Slug.ofChars (dropClosing cs) = Slug.ofChars cs := by
  obtain hself | ⟨n, hcs, hend⟩ := dropClosing_eq_or cs
  · rw [hself]
  · have hidle : (List.replicate (n + 1) '#').all Slug.isIdle = true := by
      rw [List.all_eq_true]
      intro c hc
      rw [List.eq_of_mem_replicate hc]
      rfl
    generalize dropClosing cs = text at hcs hend ⊢
    subst hcs
    obtain rfl | ⟨before, rfl⟩ := hend
    · exact (Slug.Trailed.ofChars ⟨_, rfl, hidle, fun hne => absurd rfl hne⟩).symm
    · have hshort : Slug.Trailed before (before ++ [' ']) := ⟨[' '], rfl, rfl, fun _ => rfl⟩
      have hlong : Slug.Trailed before (before ++ [' '] ++ List.replicate (n + 1) '#') :=
        ⟨' ' :: List.replicate (n + 1) '#', by simp, hidle, fun _ => rfl⟩
      rw [hshort.ofChars, hlong.ofChars]

/-- A heading on one line says the name behind its marks, up to what makes no difference to the slug. -/
theorem slugify_headingText (depth : UInt8) (marks : String) {name : String} (hall : marks.toList.all (· = '#') = true)
    (hne : marks ≠ "") (hname : '\n' ∉ name.toList) :
    slugify (heading depth (marks ++ " " ++ name)).headingText = slugify name := by
  have hmarks : ∀ c ∈ marks.toList, c = '#' := by simpa using hall
  have hraw : (heading depth (marks ++ " " ++ name)).raw.toList = trim (marks.toList ++ ' ' :: name.toList) := by
    simp [heading, leaf, trimmed]
  have hline : '\n' ∉ marks.toList ++ ' ' :: name.toList := by
    rw [List.mem_append, List.mem_cons, not_or, not_or]
    refine ⟨?_, by decide, hname⟩
    intro hmem
    exact absurd (hmarks _ hmem) (by decide)
  have htext : Slug.Trailed ((trim (marks.toList ++ ' ' :: name.toList)).dropWhile (· = '#')) (' ' :: name.toList) := by
    have htrailed := (Slug.trailed_trimEnd (marks.toList ++ ' ' :: name.toList)).dropWhile (· = '#')
    have hstart : trimStart (marks.toList ++ ' ' :: name.toList) = marks.toList ++ ' ' :: name.toList := by
      obtain ⟨c, cs, hcs⟩ := List.exists_cons_of_ne_nil (mt String.toList_eq_nil_iff.1 hne)
      obtain rfl : c = '#' := hmarks c (hcs ▸ List.mem_cons_self)
      rw [hcs]
      rfl
    rw [List.dropWhile_append_of_pos (by simpa using hmarks)] at htrailed
    rw [trim, hstart]
    exact htrailed
  rw [slugify, headingText, String.toList_ofList, hraw, headingChars, firstLine_of_not_mem (not_mem_trim hline),
    trim_of_tight (tight_trim _), Slug.ofChars_trim, ofChars_dropClosing, ← htext.ofChars, Slug.ofChars_space]
  rfl

def checkbox (checked : Bool) (name : String) : Node := item ((if checked then "- [x] " else "- [ ] ") ++ name)

end Node

namespace Draft

theorem conditionOf?_checkbox (armed : Bool) {name : String} (hname : '\n' ∉ name.toList) :
    ∃ c, conditionOf? (.checkbox armed name) = some c ∧ c.slug = slugify name ∧ c.armed = armed := by
  obtain ⟨x, hchars, hmark, hline⟩ : ∃ x, (if armed then "- [x] " else "- [ ] ").toList = ['-', ' ', '[', x, ']', ' '] ∧
      Checkbox.Mark armed ['[', x, ']'] ∧ x ≠ '\n' := by
    cases armed with
    | false => exact ⟨' ', rfl, .unchecked, by decide⟩
    | true => exact ⟨'x', rfl, .checked, by decide⟩
  have htrim : trim (['-', ' ', '[', x, ']', ' '] ++ name.toList) =
      ['-', ' ', '[', x] ++ ']' :: trimEnd (' ' :: name.toList) := trimEnd_append_cons rfl ['-', ' ', '[', x] _
  have hraw : (Node.checkbox armed name).raw.toList = ['-', ' ', '[', x] ++ ']' :: trimEnd (' ' :: name.toList) := by
    rw [Node.checkbox, Node.item, Node.leaf, trimmed, String.toList_ofList, String.toList_append, hchars, htrim]
  have hfirst : '\n' ∉ (Node.checkbox armed name).raw.toList := by
    rw [hraw, ← htrim]
    exact not_mem_trim (by simp [hname, Ne.symm hline])
  have hsplit : Checkbox.split (Node.checkbox armed name).raw.toList =
      some (armed, trimStart (trimEnd (' ' :: name.toList))) := by
    rw [hraw]
    exact Checkbox.split_of_mark hmark (trimEnd_space name.toList)
  have hslug : Slug.ofChars (trim (trimStart (trimEnd (' ' :: name.toList)))) = Slug.ofChars name.toList := by
    rw [Slug.ofChars_trim, Slug.ofChars_trimStart, ← (Slug.trailed_trimEnd _).ofChars, Slug.ofChars_space]
  refine ⟨_, by rw [conditionOf?, firstLine_of_not_mem hfirst, hsplit, Option.map_some], ?_, rfl⟩
  dsimp only [Condition.named]
  rw [slugify, String.toList_ofList, hslug]
  rfl

end Draft

theorem Registry.meets_register {r : Registry} {p : Predicate} {context : Context} {c : Condition}
    (hc : c.slug = slugify p.name) : (r.register p).Meets context c ↔ p.holds context = true := by
  have hget : SlugMap.get? (r.register p) c.slug = some p := by rw [register, SlugMap.get?_insert, if_pos hc]
  rw [Meets, hget]
  simp

theorem SlugSet.allows_singleton {enabled : SlugSet} {name : String} :
    enabled.allows [name] = true ↔ slugify name ∈ enabled.toList := by
  rw [toList, ← SlugMap.contains_iff]
  simp [allows]

theorem Feature.enabledIn_iff_environment {f : Feature} {environment : String} {e : Environment} {c : Context}
    {r : Registry} (he : f.environments.get? environment = some e) (hown : f.conditions.values = []) :
    f.EnabledIn environment c r ↔
      e.enabled = true ∧ ∀ condition ∈ e.conditions.values, condition.armed = true → r.Meets c condition := by
  have hhas : f.hasEnvironments = true := by
    have hmem := SlugMap.mem_entries_iff.2 he
    cases hentries : f.environments.entries with
    | nil => rw [hentries] at hmem; cases hmem
    | cons entry rest => rw [hasEnvironments, SlugMap.isEmpty, hentries]; rfl
  constructor
  · rintro ⟨hon, hmet⟩
    obtain ⟨hnone, -⟩ | ⟨-, e', he', henabled⟩ := hon
    · rw [hhas] at hnone
      cases hnone
    · obtain rfl : e = e' := Option.some.inj (he.symm.trans he')
      exact ⟨henabled, fun condition hc => hmet condition (.inr ⟨hhas, e, he, hc⟩)⟩
  · rintro ⟨henabled, hmet⟩
    refine ⟨.inr ⟨hhas, e, he, henabled⟩, ?_⟩
    rintro condition (hc | ⟨-, e', he', hc⟩) harmed
    · rw [hown] at hc
      cases hc
    · obtain rfl : e = e' := Option.some.inj (he.symm.trans he')
      exact hmet condition hc harmed

def Block.gate (armed : Bool) (condition : String) : List Node :=
  [.list [.item "- [x] Enabled"], .heading 4 "#### Conditions", .list [.checkbox armed condition]]

theorem Block.isHeading_gate (armed : Bool) (condition : String) :
    ∀ n ∈ gate armed condition, n.isHeading 2 = false ∧ n.isHeading 3 = false := by
  simp only [gate, List.forall_mem_cons]
  exact ⟨⟨rfl, rfl⟩, ⟨rfl, rfl⟩, ⟨rfl, rfl⟩, nofun⟩

theorem Environment.ofBlock_gate (h : Node) (armed : Bool) {condition : String} (hcondition : '\n' ∉ condition.toList) :
    (ofBlock h (Block.gate armed condition)).enabled = true ∧
      ∃ c, (ofBlock h (Block.gate armed condition)).conditions.values = [c] ∧ c.slug = slugify condition ∧
        c.armed = armed := by
  obtain ⟨c, hc, hslug, harmed⟩ := Draft.conditionOf?_checkbox armed hcondition
  have hgate : Block.state? (Block.gate armed condition) = Draft.checklistState? [.item "- [x] Enabled"] ∧
      Block.told (Block.gate armed condition) = [Node.checkbox armed condition].filterMap Draft.conditionOf? :=
    Block.toggle_conditions_eq rfl (by decide +kernel) rfl
  have hchecked : Draft.checklistState? [.item "- [x] Enabled"] = some true := by decide +kernel
  have hconditions : [Node.checkbox armed condition].filterMap Draft.conditionOf? = [c] := by
    rw [List.filterMap_cons_some hc, List.filterMap_nil]
  refine ⟨?_, c, ?_, hslug, harmed⟩
  · exact congrArg (·.getD false) (hgate.1.trans hchecked)
  · dsimp only [ofBlock]
    rw [Block.conditions_eq, hgate.2, hconditions]
    rfl

namespace FeatureSet

def gated (feature environment condition : String) (armed : Bool) : List Node :=
  .heading 2 ("## " ++ feature) :: .heading 3 ("### " ++ environment) :: Block.gate armed condition

theorem get?_gated {feature environment condition : String} (hfeature : '\n' ∉ feature.toList)
    (henvironment : '\n' ∉ environment.toList) (hcondition : '\n' ∉ condition.toList) (armed : Bool)
    (before : List Node) {after : List Node} (hafter : IsSection after)
    (hother : ∀ n ∈ after, n.isHeading 2 = true → slugify n.headingText ≠ slugify feature) :
    ∃ f e c, (ofNodes (before ++ gated feature environment condition armed ++ after)).get? (slugify feature) = some f ∧
      f.conditions.values = [] ∧ f.environments.get? (slugify environment) = some e ∧ e.enabled = true ∧
      e.conditions.values = [c] ∧ c.slug = slugify condition ∧ c.armed = armed := by
  have htitle : slugify (Node.heading 2 ("## " ++ feature)).headingText = slugify feature :=
    Node.slugify_headingText 2 "##" rfl (by decide) hfeature
  have hplace : slugify (Node.heading 3 ("### " ++ environment)).headingText = slugify environment :=
    Node.slugify_headingText 3 "###" rfl (by decide) henvironment
  obtain ⟨henabled, c, hvalues, hslug, harmed⟩ :=
    Environment.ofBlock_gate (.heading 3 ("### " ++ environment)) armed hcondition
  have hfront : ∀ m ∈ ([] : List Node), m.isHeading 2 = false ∧ m.isHeading 3 = false := nofun
  have hsections : ∀ s ∈ [(Node.heading 3 ("### " ++ environment), Block.gate armed condition)],
      s.1.isHeading 3 = true ∧ ∀ m ∈ s.2, m.isHeading 2 = false ∧ m.isHeading 3 = false :=
    List.forall_mem_singleton.2 ⟨rfl, Block.isHeading_gate armed condition⟩
  have hsection := Draft.foldl_feature (d := before.foldl Draft.step .empty) (h := .heading 2 ("## " ++ feature)) rfl
    hfront hsections
  have hget : (ofNodes (before ++ gated feature environment condition armed ++ after)).get? (slugify feature) =
      some (.ofBlocks (.heading 2 ("## " ++ feature)) []
        [.ofBlock (.heading 3 ("### " ++ environment)) (Block.gate armed condition)]) := by
    rw [ofNodes, List.foldl_append, Draft.get?_foldl_section hafter, get?_ofNodes_eq_none hother, Option.none_or,
      List.foldl_append]
    refine (congrArg (SlugMap.get? · _) hsection).trans ?_
    exact (SlugMap.get?_insert _ _ _ _).trans (if_pos htitle.symm)
  refine ⟨_, _, c, hget, rfl, ?_, henabled, hvalues, hslug, harmed⟩
  exact (SlugMap.get?_insert _ _ _ _).trans (if_pos hplace.symm)

end FeatureSet

/-- What is written under a name has the slug of the name, be it a feature, an environment or a condition. So it is met
under the name: by asking for the feature, in the environment, with a predicate for the condition. -/
theorem FeatureSet.written_met {feature environment condition : String} (hfeature : '\n' ∉ feature.toList)
    (henvironment : '\n' ∉ environment.toList) (hcondition : '\n' ∉ condition.toList) :
    (∀ d : Draft, ∃ f : Feature, f.slug = slugify feature ∧
      d.step (.heading 2 ("## " ++ feature)) = ⟨d.features.add f, .feature f.slug, false, false⟩) ∧
    (∀ (d : Draft) (slug : String), d.Within slug → ∃ e : Environment, e.slug = slugify environment ∧
      d.step (.heading 3 ("### " ++ environment)) =
        ⟨d.features.modify slug (·.withEnvironment e), .environment slug e.slug, false, false⟩) ∧
    (∀ (d : Draft) (armed : Bool) (before after : List Node), d.inConditions = true →
      ∃ c : Condition, c.slug = slugify condition ∧ c.armed = armed ∧
        d.step (.list (before ++ .checkbox armed condition :: after)) =
          let cs := before.filterMap Draft.conditionOf? ++ c :: after.filterMap Draft.conditionOf?
          d.edit (cs.foldl Feature.withCondition ·) (cs.foldl Environment.withCondition ·)) ∧
    ∀ (before after : List Node) (armed : Bool) (holds : Context → Bool) (c : Context) (r : Registry),
      IsSection after → (∀ n ∈ after, n.isHeading 2 = true → slugify n.headingText ≠ slugify feature) →
      ((ofNodes (before ++ gated feature environment condition armed ++ after)).evaluate environment c
        (r.register ⟨condition, holds⟩)).enabled.allows [feature] = (!armed || holds c) := by
  refine ⟨fun d => ?_, fun d slug hd => ?_, fun d armed before after hd => ?_, ?_⟩
  · have hslug : slugify (Node.heading 2 ("## " ++ feature)).headingText = slugify feature :=
      Node.slugify_headingText 2 "##" rfl (by decide) hfeature
    exact ⟨.named (Node.heading 2 ("## " ++ feature)).headingText false, hslug, Draft.step_of_feature rfl⟩
  · have hslug : slugify (Node.heading 3 ("### " ++ environment)).headingText = slugify environment :=
      Node.slugify_headingText 3 "###" rfl (by decide) henvironment
    exact ⟨.named (Node.heading 3 ("### " ++ environment)).headingText false, hslug, Draft.step_environment hd rfl⟩
  · obtain ⟨c, hc, hslug, harmed⟩ := Draft.conditionOf?_checkbox armed hcondition
    have hcs : (before ++ .checkbox armed condition :: after).filterMap Draft.conditionOf? =
        before.filterMap Draft.conditionOf? ++ c :: after.filterMap Draft.conditionOf? := by
      rw [List.filterMap_append, List.filterMap_cons_some hc]
    have hstep := Draft.step_of_condition_list (n := .list (before ++ .checkbox armed condition :: after)) rfl hd rfl
    refine ⟨c, hslug, harmed, ?_⟩
    rw [hstep, Node.list, Draft.addConditions, hcs]
  · intro before after armed holds c r hafter hother
    obtain ⟨f, e, condition', hget, hown, he, henabled, hvalues, hslug, harmed⟩ :=
      get?_gated hfeature henvironment hcondition armed before hafter hother
    rw [Bool.eq_iff_iff, SlugSet.allows_singleton, mem_evaluate_iff_get? (filed_ofNodes _), hget]
    simp only [Option.some_inj, exists_eq_left']
    rw [Feature.enabledIn_iff_environment he hown, hvalues, List.forall_mem_singleton, harmed,
      Registry.meets_register (p := ⟨condition, holds⟩) hslug]
    cases armed <;> simp [henabled]

theorem FeatureSet.written_met_marked :
    ('\n' ∉ "# [x] Log-In ##".toList ∧ '\n' ∉ "- [ ] Prod # ".toList ∧ '\n' ∉ "[X] Beta_Users".toList) ∧
    ((ofNodes ([] ++ gated "# [x] Log-In ##" "- [ ] Prod # " "[X] Beta_Users" true ++ [])).evaluate "- [ ] Prod # " ∅
      (Registry.register ∅ ⟨"[X] Beta_Users", fun _ => true⟩)).enabled.allows ["# [x] Log-In ##"] = true :=
  ⟨by decide, (written_met (by decide) (by decide) (by decide)).2.2.2 [] [] true (fun _ => true) ∅ ∅ nofun nofun⟩

end FlagSheet
