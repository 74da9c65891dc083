import FlagSheet.Proofs.Document.Append
import FlagSheet.Proofs.Document.Grammar
import FlagSheet.Proofs.Evaluation

namespace FlagSheet

namespace SlugMap

variable {α : Type} {m : SlugMap α} {p : String → α → Prop}

def All (m : SlugMap α) (p : String → α → Prop) : Prop := ∀ k v, m.get? k = some v → p k v

theorem all_empty : (∅ : SlugMap α).All p := by
  intro k v hv
  cases hv

theorem All.insert (h : m.All p) {key : String} {v : α} (hv : p key v) : (m.insert key v).All p := by
  intro k w hw
  rw [get?_insert] at hw
  by_cases hk : k = key
  · rw [if_pos hk, Option.some_inj] at hw
    rwa [hk, ← hw]
  · rw [if_neg hk] at hw
    exact h k w hw

theorem All.modify (h : m.All p) (key : String) {f : α → α} (hf : ∀ v, p key v → p key (f v)) :
    (m.modify key f).All p := by
  intro k w hw
  rw [get?_modify] at hw
  by_cases hk : k = key
  · rw [if_pos hk, Option.map_eq_some_iff] at hw
    obtain ⟨v, hv, rfl⟩ := hw
    subst hk
    exact hf v (h k v hv)
  · rw [if_neg hk] at hw
    exact h k w hw

theorem mem_values {v : α} : v ∈ m.values ↔ ∃ k, m.get? k = some v := by
  simp only [values, List.mem_map, Prod.exists, exists_eq_right, mem_entries_iff]

end SlugMap

def Condition.At (k : String) (c : Condition) : Prop := c.slug = k

structure Environment.At (k : String) (e : Environment) : Prop where
  slug : e.slug = k
  conditions : e.conditions.All Condition.At

structure Feature.At (k : String) (f : Feature) : Prop where
  slug : f.slug = k
  environments : f.environments.All Environment.At
  conditions : f.conditions.All Condition.At

def FeatureSet.Filed (fs : FeatureSet) : Prop := SlugMap.All fs Feature.At

theorem Environment.At.named (name : String) (enabled : Bool) : (Environment.named name enabled).At (slugify name) :=
  ⟨rfl, SlugMap.all_empty⟩

theorem Block.all_addTo {m : SlugMap Condition} {p : String → Condition → Prop} (h : m.All p) {cs : List Condition}
    (hcs : ∀ c ∈ cs, p c.slug c) : (addTo m cs).All p := by
  induction cs generalizing m with
  | nil => exact h
  | cons c cs ih =>
      rw [List.forall_mem_cons] at hcs
      exact ih (h.insert hcs.1) hcs.2

theorem Environment.At.withConditions {k : String} {e : Environment} (h : e.At k) (cs : List Condition) :
    (cs.foldl withCondition e).At k := by
  rw [foldl_withCondition]
  exact ⟨h.slug, Block.all_addTo h.conditions fun _ _ => rfl⟩

theorem Feature.At.named (name : String) (enabled : Bool) : (Feature.named name enabled).At (slugify name) :=
  ⟨rfl, SlugMap.all_empty, SlugMap.all_empty⟩

theorem Feature.At.withEnvironment {k : String} {f : Feature} (h : f.At k) {e : Environment} (he : e.At e.slug) :
    (f.withEnvironment e).At k := ⟨h.slug, h.environments.insert he, h.conditions⟩

theorem Feature.At.withConditions {k : String} {f : Feature} (h : f.At k) (cs : List Condition) :
    (cs.foldl withCondition f).At k := by
  rw [foldl_withCondition]
  exact ⟨h.slug, h.environments, Block.all_addTo h.conditions fun _ _ => rfl⟩

/-- What a feature has when it is opened, and keeps through all that is read into it. -/
structure Feature.Kept (p : String → Feature → Prop) : Prop where
  opened (name : String) : p (slugify name) (.named name false)
  setState {k : String} {f : Feature} (h : p k f) (checked : Bool) : p k { f with enabled := checked }
  addConditions {k : String} {f : Feature} (h : p k f) {cs : List Condition}
    (hcs : ∀ c ∈ cs, ∃ name armed, c = .named name armed) : p k (cs.foldl withCondition f)
  openEnvironment {k : String} {f : Feature} (h : p k f) (name : String) : p k (f.withEnvironment (.named name false))
  setStateIn {k : String} {f : Feature} (h : p k f) (slug : String) (checked : Bool) :
    p k { f with environments := f.environments.modify slug ({ · with enabled := checked }) }
  addConditionsIn {k : String} {f : Feature} (h : p k f) (slug : String) {cs : List Condition}
    (hcs : ∀ c ∈ cs, ∃ name armed, c = .named name armed) :
    p k { f with environments := f.environments.modify slug (cs.foldl Environment.withCondition ·) }

namespace Draft

variable {d : Draft} {p : String → Feature → Prop}

theorem all_edit (h : d.features.All p) {f : Feature → Feature} {g : Environment → Environment}
    (hf : ∀ k x, p k x → p k (f x))
    (hg : ∀ k x slug, p k x → p k { x with environments := x.environments.modify slug g }) :
    (d.edit f g).features.All p := by
  cases hs : d.scope with
  | outside =>
      rw [edit_of_outside hs]
      exact h
  | feature slug =>
      rw [edit_of_feature hs]
      exact h.modify slug (hf slug)
  | environment feature slug =>
      rw [edit_of_environment hs]
      exact h.modify feature fun x => hg feature x slug

theorem all_openEnvironment (hp : Feature.Kept p) (h : d.features.All p) (name : String) :
    (d.openEnvironment name).features.All p := by
  have hopened {slug : String} (hd : d.Within slug) : (d.openEnvironment name).features.All p := by
    rw [openEnvironment_of_within hd]
    exact h.modify slug fun x hx => hp.openEnvironment hx name
  cases hs : d.scope with
  | outside =>
      unfold openEnvironment
      rw [hs]
      exact h
  | feature slug => exact hopened (.inl hs)
  | environment slug e => exact hopened (.inr ⟨e, hs⟩)

theorem all_applyChecklist (hp : Feature.Kept p) (h : d.features.All p) (items : List Node) :
    (d.applyChecklist items).features.All p := by
  unfold applyChecklist
  split
  · exact h
  · split
    · exact h
    · next checked _ =>
        exact all_edit h (fun k x hx => hp.setState hx checked) fun k x slug hx => hp.setStateIn hx slug checked

theorem all_addConditions (hp : Feature.Kept p) (h : d.features.All p) (items : List Node) :
    (d.addConditions items).features.All p := by
  have hnamed : ∀ c ∈ items.filterMap conditionOf?, ∃ name armed, c = .named name armed := by
    intro c hc
    obtain ⟨item, -, hitem⟩ := List.mem_filterMap.1 hc
    obtain ⟨⟨armed, name⟩, -, rfl⟩ := Option.map_eq_some_iff.1 hitem
    exact ⟨_, armed, rfl⟩
  exact all_edit h (fun k x hx => hp.addConditions hx hnamed) fun k x slug hx => hp.addConditionsIn hx slug hnamed

theorem all_stepWithin (hp : Feature.Kept p) (h : d.features.All p) (n : Node) : (d.stepWithin n).features.All p := by
  unfold stepWithin
  split
  · exact all_openEnvironment hp h _
  · split
    · exact h
    · split
      · exact all_applyChecklist hp h _
      · exact h

theorem all_step (hp : Feature.Kept p) (h : d.features.All p) (n : Node) : (d.step n).features.All p := by
  unfold step
  split
  · exact SlugMap.All.insert h (hp.opened _)
  · split
    · exact all_addConditions hp h _
    · have hclosed : ({ d with inConditions := false } : Draft).features.All p := h
      dsimp only
      split
      · exact hclosed
      · exact all_stepWithin hp hclosed n

theorem all_foldl (hp : Feature.Kept p) (h : d.features.All p) (ns : List Node) :
    (ns.foldl step d).features.All p := by
  induction ns generalizing d with
  | nil => exact h
  | cons n ns ih => exact ih (all_step hp h n)

end Draft

theorem FeatureSet.all_ofNodes {p : String → Feature → Prop} (hp : Feature.Kept p) (ns : List Node) :
    SlugMap.All (ofNodes ns) p := Draft.all_foldl (d := .empty) hp SlugMap.all_empty ns

theorem Feature.kept_at : Kept At where
  opened name := .named name false
  setState h _ := ⟨h.slug, h.environments, h.conditions⟩
  addConditions h cs _ := h.withConditions cs
  openEnvironment h name := h.withEnvironment (.named name false)
  setStateIn h slug _ := ⟨h.slug, h.environments.modify slug fun _ he => ⟨he.slug, he.conditions⟩, h.conditions⟩
  addConditionsIn h slug cs _ := ⟨h.slug, h.environments.modify slug fun _ he => he.withConditions cs, h.conditions⟩

theorem Draft.filed_step {d : Draft} (h : d.features.Filed) (n : Node) : (d.step n).features.Filed :=
  all_step Feature.kept_at h n

theorem FeatureSet.filed_ofNodes (ns : List Node) : (ofNodes ns).Filed := all_ofNodes Feature.kept_at ns

namespace Draft

variable {d : Draft}

theorem isSome_get?_edit (d : Draft) (f : Feature → Feature) (g : Environment → Environment) (k : String) :
    ((d.edit f g).features.get? k).isSome = (d.features.get? k).isSome := by
  unfold edit
  split
  · rfl
  · exact isSome_get?_modify _ _ _ _
  · exact isSome_get?_modify _ _ _ _

theorem isSome_get?_stepWithin (d : Draft) (n : Node) (k : String) :
    ((d.stepWithin n).features.get? k).isSome = (d.features.get? k).isSome := by
  unfold stepWithin openEnvironment applyChecklist
  split
  · split
    · rfl
    · exact isSome_get?_modify _ _ _ _
    · exact isSome_get?_modify _ _ _ _
  · split
    · rfl
    · split
      · split
        · rfl
        · split
          · rfl
          · exact isSome_get?_edit _ _ _ _
      · rfl

theorem isSome_get?_step (d : Draft) (n : Node) (k : String) :
    ((d.step n).features.get? k).isSome =
      (n.isHeading 2 && decide (k = slugify n.headingText) || (d.features.get? k).isSome) := by
  cases hn : n.isHeading 2 with
  | true =>
      rw [step_of_feature hn, Bool.true_and]
      exact SlugMap.contains_insert _ _ _ _
  | false =>
      rw [step, hn, if_neg Bool.false_ne_true, Bool.false_and, Bool.false_or]
      split
      · exact isSome_get?_edit _ _ _ _
      · dsimp only
        split
        · rfl
        · exact isSome_get?_stepWithin _ _ _

theorem isSome_get?_foldl (d : Draft) (ns : List Node) (k : String) :
    ((ns.foldl step d).features.get? k).isSome = true ↔
      (∃ n ∈ ns, n.isHeading 2 = true ∧ k = slugify n.headingText) ∨ (d.features.get? k).isSome = true := by
  induction ns generalizing d with
  | nil => simp
  | cons n ns ih =>
      rw [List.foldl_cons, ih, isSome_get?_step, Bool.or_eq_true, Bool.and_eq_true, decide_eq_true_eq,
        List.exists_mem_cons_iff, or_left_comm, or_assoc]

end Draft

structure Feature.EnabledIn (f : Feature) (environment : String) (c : Context) (r : Registry) : Prop where
  on : f.On environment
  met : ∀ condition, f.GatedBy environment condition → condition.armed = true → r.Meets c condition

theorem Feature.enabledIn_iff {f : Feature} {environment : String} {c : Context} {r : Registry} :
    f.EnabledIn environment c r ↔
      ∃ conditions, f.activeConditions? environment = some conditions ∧ (r.consult c conditions).1 = true := by
  simp only [Registry.consult_iff]
  constructor
  · rintro ⟨hon, hmet⟩
    obtain ⟨conditions, hactive⟩ := activeConditions?_of_on hon
    obtain ⟨-, hgated⟩ := mem_activeConditions? hactive
    exact ⟨conditions, hactive, fun condition hmem => hmet condition ((hgated condition).1 hmem)⟩
  · rintro ⟨conditions, hactive, hmet⟩
    obtain ⟨hon, hgated⟩ := mem_activeConditions? hactive
    exact ⟨hon, fun condition hgate => hmet condition ((hgated condition).2 hgate)⟩

theorem FeatureSet.mem_evaluate_iff_get? {fs : FeatureSet} (h : fs.Filed) {environment : String} {c : Context}
    {r : Registry} {slug : String} :
    slug ∈ (fs.evaluate environment c r).enabled.toList ↔
      ∃ f, fs.get? slug = some f ∧ f.EnabledIn (slugify environment) c r := by
  rw [evaluate, SlugSet.mem_toList_ofList, Evaluation.mem_admitted]
  simp only [Evaluation.mem_candidates, Feature.enabledIn_iff, SlugMap.mem_values]
  constructor
  · rintro ⟨f, conditions, ⟨⟨k, hk⟩, hactive⟩, rfl, hmet⟩
    rw [(h k f hk).slug]
    exact ⟨f, hk, conditions, hactive, hmet⟩
  · rintro ⟨f, hf, conditions, hactive, hmet⟩
    exact ⟨f, conditions, ⟨⟨slug, hf⟩, hactive⟩, (h slug f hf).slug, hmet⟩

end FlagSheet
