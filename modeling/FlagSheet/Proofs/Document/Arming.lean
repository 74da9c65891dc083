import FlagSheet.Proofs.Document.Filed

namespace FlagSheet

namespace SlugMap

variable {α : Type} {r : α → α → Prop} {m m' : SlugMap α}

def Rel (r : α → α → Prop) (m m' : SlugMap α) : Prop :=
  ∀ k, (m.get? k = none ∧ m'.get? k = none) ∨ ∃ v v', m.get? k = some v ∧ m'.get? k = some v' ∧ r v v'

theorem rel_refl (hr : ∀ v, r v v) (m : SlugMap α) : Rel r m m := by
  intro k
  cases hk : m.get? k with
  | none => exact .inl ⟨rfl, rfl⟩
  | some v => exact .inr ⟨v, v, rfl, rfl, hr v⟩

theorem Rel.insert (h : Rel r m m') (key : String) {v v' : α} (hv : r v v') :
    Rel r (m.insert key v) (m'.insert key v') := by
  intro k
  rw [get?_insert, get?_insert]
  by_cases hk : k = key
  · rw [if_pos hk, if_pos hk]
    exact .inr ⟨v, v', rfl, rfl, hv⟩
  · rw [if_neg hk, if_neg hk]
    exact h k

theorem Rel.modify {p : String → α → Prop} (h : Rel r m m') (hm : m.All p) (key : String) {f f' : α → α}
    (hf : ∀ v v', p key v → r v v' → r (f v) (f' v')) : Rel r (m.modify key f) (m'.modify key f') := by
  intro k
  rw [get?_modify, get?_modify]
  by_cases hk : k = key
  · subst hk
    rw [if_pos rfl, if_pos rfl]
    obtain ⟨hv, hv'⟩ | ⟨v, v', hv, hv', hr⟩ := h k
    · rw [hv, hv']
      exact .inl ⟨rfl, rfl⟩
    · rw [hv, hv']
      exact .inr ⟨f v, f' v', rfl, rfl, hf v v' (hm k v hv) hr⟩
  · rw [if_neg hk, if_neg hk]
    exact h k

theorem isEmpty_iff : m.isEmpty = true ↔ ∀ k, m.get? k = none := by
  rw [isEmpty, List.isEmpty_iff, List.eq_nil_iff_forall_not_mem]
  simp only [Prod.forall, mem_entries_iff, Option.eq_none_iff_forall_ne_some, ne_eq]

theorem Rel.isEmpty (h : Rel r m m') : m.isEmpty = m'.isEmpty := by
  rw [Bool.eq_iff_iff, isEmpty_iff, isEmpty_iff]
  refine forall_congr' fun k => ?_
  obtain ⟨hv, hv'⟩ | ⟨v, v', hv, hv', -⟩ := h k
  · rw [hv, hv']
  · simp only [hv, hv', reduceCtorEq]

end SlugMap

/-- Every condition that is armed in the first map has one with its slug in the second map that is armed too. -/
def Condition.Tighter (m m' : SlugMap Condition) : Prop :=
  ∀ k c, m.get? k = some c → c.armed = true → ∃ c', m'.get? k = some c' ∧ c'.armed = true ∧ c'.slug = c.slug

structure Environment.Tighter (e e' : Environment) : Prop where
  enabled : e'.enabled = e.enabled
  conditions : Condition.Tighter e.conditions e'.conditions

structure Feature.Tighter (f f' : Feature) : Prop where
  enabled : f'.enabled = f.enabled
  environments : SlugMap.Rel Environment.Tighter f.environments f'.environments
  conditions : Condition.Tighter f.conditions f'.conditions

namespace Condition

variable {m m' : SlugMap Condition}

theorem tighter_refl (m : SlugMap Condition) : Tighter m m := fun _ c hc harmed => ⟨c, hc, harmed, rfl⟩

theorem Tighter.insert (h : Tighter m m') (c : Condition) : Tighter (m.insert c.slug c) (m'.insert c.slug c) := by
  intro k d hd harmed
  rw [SlugMap.get?_insert] at hd
  rw [SlugMap.get?_insert]
  by_cases hk : k = c.slug
  · rw [if_pos hk] at hd ⊢
    exact ⟨d, hd, harmed, rfl⟩
  · rw [if_neg hk] at hd ⊢
    exact h k d hd harmed

theorem Tighter.addTo (h : Tighter m m') (cs : List Condition) : Tighter (Block.addTo m cs) (Block.addTo m' cs) := by
  induction cs generalizing m m' with
  | nil => exact h
  | cons c cs ih => exact ih (h.insert c)

theorem Tighter.insert_armed (h : Tighter m m') (hm : m.All At) {c : Condition} (hc : c.armed = true) :
    Tighter m (m'.insert c.slug c) := by
  intro k d hd harmed
  rw [SlugMap.get?_insert]
  by_cases hk : k = c.slug
  · rw [if_pos hk]
    exact ⟨c, rfl, hc, hk.symm.trans (hm k d hd).symm⟩
  · rw [if_neg hk]
    exact h k d hd harmed

theorem Tighter.addTo_armed (h : Tighter m m') (hm : m.All At) {c : Condition} (hc : c.armed = true)
    (cs ds : List Condition) : Tighter (Block.addTo m (cs ++ ds)) (Block.addTo m' (cs ++ c :: ds)) := by
  rw [Block.addTo_append, Block.addTo_append]
  exact ((h.addTo cs).insert_armed (Block.all_addTo hm fun _ _ => rfl) hc).addTo ds

theorem meets_of_tighter (h : Tighter m m') {r : Registry} {context : Context}
    (hmet : ∀ c ∈ m'.values, c.armed = true → r.Meets context c) {c : Condition} (hc : c ∈ m.values)
    (harmed : c.armed = true) : r.Meets context c := by
  obtain ⟨k, hk⟩ := SlugMap.mem_values.1 hc
  obtain ⟨c', hk', harmed', hslug⟩ := h k c hk harmed
  have hmeets := hmet c' (SlugMap.mem_values.2 ⟨k, hk'⟩) harmed'
  rwa [Registry.Meets, hslug] at hmeets

end Condition

theorem Environment.tighter_refl (e : Environment) : e.Tighter e := ⟨rfl, Condition.tighter_refl _⟩

theorem Feature.tighter_refl (f : Feature) : f.Tighter f :=
  ⟨rfl, SlugMap.rel_refl Environment.tighter_refl _, Condition.tighter_refl _⟩

theorem Feature.Tighter.enabledIn {f f' : Feature} (h : f.Tighter f') {environment : String} {c : Context}
    {r : Registry} (henabled : f'.EnabledIn environment c r) : f.EnabledIn environment c r := by
  obtain ⟨hon, hmet⟩ := henabled
  have hhas : f'.hasEnvironments = f.hasEnvironments := congrArg (! ·) h.environments.isEmpty.symm
  refine ⟨?_, ?_⟩
  · rcases hon with ⟨hnone, hon⟩ | ⟨hsome, e', he', hon⟩
    · exact .inl ⟨hhas ▸ hnone, h.enabled ▸ hon⟩
    · obtain ⟨-, hnone⟩ | ⟨e, e'', he, he'', htighter⟩ := h.environments environment
      · exact absurd (he'.symm.trans hnone) (Option.some_ne_none e')
      · obtain rfl : e' = e'' := Option.some.inj (he'.symm.trans he'')
        exact .inr ⟨hhas ▸ hsome, e, he, htighter.enabled ▸ hon⟩
  · rintro condition (hown | ⟨hsome, e, he, hin⟩) harmed
    · exact Condition.meets_of_tighter h.conditions (fun c' hc' => hmet c' (.inl hc')) hown harmed
    · obtain ⟨hnone, -⟩ | ⟨e'', e', he'', he', htighter⟩ := h.environments environment
      · exact absurd (he.symm.trans hnone) (Option.some_ne_none e)
      · obtain rfl : e = e'' := Option.some.inj (he.symm.trans he'')
        exact Condition.meets_of_tighter htighter.conditions
          (fun c' hc' => hmet c' (.inr ⟨hhas ▸ hsome, e', he', hc'⟩)) hin harmed

namespace Draft

variable {d d' : Draft}

/-- The second draft is the first one with tighter conditions. -/
structure Tighter (d d' : Draft) : Prop where
  features : SlugMap.Rel Feature.Tighter d.features d'.features
  scope : d'.scope = d.scope
  inConditions : d'.inConditions = d.inConditions
  toggled : d'.toggled = d.toggled

theorem tighter_refl (d : Draft) : d.Tighter d := ⟨SlugMap.rel_refl Feature.tighter_refl _, rfl, rfl, rfl⟩

theorem Tighter.edit (h : d.Tighter d') (hd : d.features.Filed) {f f' : Feature → Feature}
    {g g' : Environment → Environment}
    (hf : ∀ k x x', Feature.At k x → x.Tighter x' → (f x).Tighter (f' x'))
    (hg : ∀ k e e', Environment.At k e → e.Tighter e' → (g e).Tighter (g' e')) :
    (d.edit f g).Tighter (d'.edit f' g') := by
  cases hs : d.scope with
  | outside =>
      rw [edit_of_outside hs, edit_of_outside (h.scope.trans hs)]
      exact h
  | feature slug =>
      rw [edit_of_feature hs, edit_of_feature (h.scope.trans hs)]
      exact ⟨h.features.modify hd slug (hf slug), h.scope, h.inConditions, h.toggled⟩
  | environment feature slug =>
      rw [edit_of_environment hs, edit_of_environment (h.scope.trans hs)]
      refine ⟨h.features.modify hd feature fun x x' hx hxx => ?_, h.scope, h.inConditions, h.toggled⟩
      exact ⟨hxx.enabled, hxx.environments.modify hx.environments slug (hg slug), hxx.conditions⟩

theorem Tighter.openFeature (h : d.Tighter d') (name : String) : (d.openFeature name).Tighter (d'.openFeature name) :=
  ⟨h.features.insert _ (Feature.tighter_refl _), rfl, rfl, rfl⟩

theorem Tighter.openEnvironment (h : d.Tighter d') (hd : d.features.Filed) (name : String) :
    (d.openEnvironment name).Tighter (d'.openEnvironment name) := by
  have hopened {slug : String} (hin : d.Within slug) :
      (d.openEnvironment name).Tighter (d'.openEnvironment name) := by
    have hin' : d'.Within slug := by rwa [Within, h.scope]
    rw [openEnvironment_of_within hin, openEnvironment_of_within hin']
    refine ⟨h.features.modify hd slug fun x x' _ hxx => ?_, rfl, rfl, rfl⟩
    exact ⟨hxx.enabled, hxx.environments.insert _ (Environment.tighter_refl _), hxx.conditions⟩
  cases hs : d.scope with
  | outside =>
      unfold Draft.openEnvironment
      rw [h.scope, hs]
      exact h
  | feature slug => exact hopened (.inl hs)
  | environment slug e => exact hopened (.inr ⟨e, hs⟩)

theorem Tighter.applyChecklist (h : d.Tighter d') (hd : d.features.Filed) (items : List Node) :
    (d.applyChecklist items).Tighter (d'.applyChecklist items) := by
  unfold Draft.applyChecklist
  rw [h.toggled]
  split
  · exact h
  · split
    · exact h
    · next checked _ =>
        have he : (d.edit ({ · with enabled := checked }) ({ · with enabled := checked })).Tighter
            (d'.edit ({ · with enabled := checked }) ({ · with enabled := checked })) :=
          h.edit hd (fun _ _ _ _ hxx => ⟨rfl, hxx.environments, hxx.conditions⟩)
            fun _ _ _ _ hee => ⟨rfl, hee.conditions⟩
        exact ⟨he.features, he.scope, he.inConditions, rfl⟩

theorem Tighter.addConditions (h : d.Tighter d') (hd : d.features.Filed) (items : List Node) :
    (d.addConditions items).Tighter (d'.addConditions items) := by
  refine h.edit hd (fun _ x x' _ hxx => ?_) fun _ e e' _ hee => ?_
  · rw [Feature.foldl_withCondition, Feature.foldl_withCondition]
    exact ⟨hxx.enabled, hxx.environments, hxx.conditions.addTo _⟩
  · rw [Environment.foldl_withCondition, Environment.foldl_withCondition]
    exact ⟨hee.enabled, hee.conditions.addTo _⟩

theorem Tighter.withConditions (h : d.Tighter d') (b : Bool) :
    ({ d with inConditions := b } : Draft).Tighter { d' with inConditions := b } :=
  ⟨h.features, h.scope, rfl, h.toggled⟩

theorem Tighter.stepWithin (h : d.Tighter d') (hd : d.features.Filed) (n : Node) :
    (d.stepWithin n).Tighter (d'.stepWithin n) := by
  unfold Draft.stepWithin
  split
  · exact h.openEnvironment hd _
  · split
    · exact h.withConditions true
    · split
      · exact h.applyChecklist hd _
      · exact h

theorem Tighter.step (h : d.Tighter d') (hd : d.features.Filed) (n : Node) : (d.step n).Tighter (d'.step n) := by
  unfold Draft.step
  rw [h.inConditions]
  split
  · exact h.openFeature _
  · split
    · exact h.addConditions hd _
    · have hclosed := h.withConditions false
      have hscope := h.scope
      dsimp only
      split
      · next hs =>
          rw [hs] at hscope
          split
          · exact hclosed
          · next hs' => exact absurd hscope hs'
      · next hs =>
          split
          · next hs' => exact absurd (hscope.symm.trans hs') hs
          · exact hclosed.stepWithin hd n

theorem Tighter.foldl (h : d.Tighter d') (hd : d.features.Filed) (ns : List Node) :
    (ns.foldl Draft.step d).Tighter (ns.foldl Draft.step d') := by
  induction ns generalizing d d' with
  | nil => exact h
  | cons n ns ih => exact ih (h.step hd n) (filed_step hd n)

theorem tighter_addConditions (hd : d.features.Filed) {item : Node} {c : Condition} (hitem : conditionOf? item = some c)
    (hc : c.armed = true) (items items' : List Node) :
    (d.addConditions (items ++ items')).Tighter (d.addConditions (items ++ item :: items')) := by
  unfold addConditions
  rw [List.filterMap_append, List.filterMap_append, List.filterMap_cons_some hitem]
  refine (tighter_refl d).edit hd (fun k x x' hx hxx => ?_) fun k e e' he hee => ?_
  · rw [Feature.foldl_withCondition, Feature.foldl_withCondition]
    exact ⟨hxx.enabled, hxx.environments, hxx.conditions.addTo_armed hx.conditions hc _ _⟩
  · rw [Environment.foldl_withCondition, Environment.foldl_withCondition]
    exact ⟨hee.enabled, hee.conditions.addTo_armed he.conditions hc _ _⟩

end Draft

namespace FeatureSet

open Draft (conditionOf?)

/-- A checked item more in a list that is read as conditions, at any place of the list. -/
theorem evaluate_subset_of_armed_item {before after : List Node} {l l' : Node} {items items' : List Node} {item : Node}
    (hbefore : (before.foldl Draft.step .empty).inConditions = true) (hl : l.kind = .list) (hl' : l'.kind = .list)
    (hitems : l.children = items ++ items') (hitems' : l'.children = items ++ item :: items')
    (hchecked : (Checkbox.split (Text.firstLine item.raw.toList)).map (·.1) = some true)
    (environment : String) (c : Context) (r : Registry) :
    ((ofNodes (before ++ l' :: after)).evaluate environment c r).enabled.toList ⊆
      ((ofNodes (before ++ l :: after)).evaluate environment c r).enabled.toList := by
  obtain ⟨⟨checked, name⟩, hsplit, rfl⟩ := Option.map_eq_some_iff.1 hchecked
  have hitem : conditionOf? item = some (.named (String.ofList (Text.trim name)) true) := by
    rw [conditionOf?, hsplit]
    rfl
  have hheading {n : Node} (hn : n.kind = .list) : n.isHeading 2 = false :=
    Draft.isHeading_of_kind (by rw [hn]; decide) 2
  have hfiled : (before.foldl Draft.step .empty).features.Filed := filed_ofNodes before
  have hlist : ((before.foldl Draft.step .empty).step l).Tighter ((before.foldl Draft.step .empty).step l') := by
    rw [Draft.step_of_condition_list (hheading hl) hbefore hl, Draft.step_of_condition_list (hheading hl') hbefore hl',
      hitems, hitems']
    exact Draft.tighter_addConditions hfiled hitem rfl items items'
  have hall := (hlist.foldl (Draft.filed_step hfiled l) after).features
  intro slug hslug
  rw [mem_evaluate_iff_get? (filed_ofNodes _)] at hslug ⊢
  obtain ⟨f', hf', henabled⟩ := hslug
  rw [ofNodes, List.foldl_append, List.foldl_cons] at hf' ⊢
  obtain ⟨-, hnone⟩ | ⟨f, f'', hf, hf'', htighter⟩ := hall slug
  · exact absurd (hf'.symm.trans hnone) (Option.some_ne_none f')
  · obtain rfl : f' = f'' := Option.some.inj (hf'.symm.trans hf'')
    exact ⟨f, hf, htighter.enabledIn henabled⟩

/-- The item stands behind one of its own slug that is not armed. Without it the feature is enabled. -/
theorem evaluate_subset_of_armed_staff :
    ((ofNodes ([.heading 2 "## Login", .list [.item "- [x] Enabled"], .heading 4 "#### Conditions"] ++
        .list ([.item "- [ ] Staff"] ++ .item "- [x] staff" :: [.item "- [x] Beta"]) ::
          [.heading 3 "### Production", .list [.item "- [x] Enabled"]])).evaluate "production" ∅
            (.ofPredicates [⟨"Beta", fun _ => true⟩])).enabled.toList ⊆
      ((ofNodes ([.heading 2 "## Login", .list [.item "- [x] Enabled"], .heading 4 "#### Conditions"] ++
        .list ([.item "- [ ] Staff"] ++ [.item "- [x] Beta"]) ::
          [.heading 3 "### Production", .list [.item "- [x] Enabled"]])).evaluate "production" ∅
            (.ofPredicates [⟨"Beta", fun _ => true⟩])).enabled.toList ∧
    "login" ∈ ((ofNodes ([.heading 2 "## Login", .list [.item "- [x] Enabled"], .heading 4 "#### Conditions"] ++
        .list ([.item "- [ ] Staff"] ++ [.item "- [x] Beta"]) ::
          [.heading 3 "### Production", .list [.item "- [x] Enabled"]])).evaluate "production" ∅
            (.ofPredicates [⟨"Beta", fun _ => true⟩])).enabled.toList :=
  ⟨evaluate_subset_of_armed_item (by decide +kernel) rfl rfl rfl rfl (by decide +kernel) _ _ _, by decide +kernel⟩

end FeatureSet

end FlagSheet
