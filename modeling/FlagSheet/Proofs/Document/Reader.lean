import FlagSheet.Proofs.Document.Step

namespace FlagSheet

theorem SlugMap.modify_of_get? {α : Type} {m : SlugMap α} {key : String} {v : α} (h : m.get? key = some v) (f : α → α) :
    m.modify key f = m.insert key (f v) := by
  apply ext_get?
  intro k
  rw [get?_modify, get?_insert]
  by_cases hk : k = key
  · rw [if_pos hk, if_pos hk, hk, h, Option.map_some]
  · rw [if_neg hk, if_neg hk]

inductive Level where
  | feature
  | environment
deriving DecidableEq

inductive Place where
  | outside
  | within (level : Level)
  | conditions (level : Level)
deriving DecidableEq

def Place.level? : Place → Option Level
  | .outside => none
  | .within level => some level
  | .conditions level => some level

/-- A reader keeps no more than the slugs of what is open, looks them up for every change, and leaves out a
change when it does not find what they stand for. -/
structure Reader where
  features : FeatureSet
  place : Place
  feature : Option String
  environment : Option String
  toggled : Bool

namespace Reader

open Draft (checklistState? conditionOf? isConditionsHeading)

def empty : Reader := ⟨∅, .outside, none, none, false⟩

def currentFeature? (r : Reader) : Option Feature := r.feature.bind r.features.get?

def currentEnvironment? (r : Reader) : Option Environment :=
  r.environment.bind fun slug => r.currentFeature?.bind (·.environments.get? slug)

def changeFeature? (r : Reader) (change : Feature → Feature) : Option Reader :=
  r.feature.bind fun slug => (r.features.get? slug).map fun f =>
    { r with features := r.features.insert slug (change f) }

def changeEnvironment? (r : Reader) (change : Environment → Environment) : Option Reader :=
  r.environment.bind fun slug => r.currentEnvironment?.bind fun e =>
    r.changeFeature? fun f => { f with environments := f.environments.insert slug (change e) }

def change? (r : Reader) (level : Level) (onFeature : Feature → Feature) (onEnvironment : Environment → Environment) :
    Option Reader :=
  match level with
  | .feature => r.changeFeature? onFeature
  | .environment => r.changeEnvironment? onEnvironment

def openFeature (r : Reader) (name : String) : Reader :=
  let f := Feature.named name false
  ⟨r.features.add f, .within .feature, some f.slug, none, false⟩

def openEnvironment (r : Reader) (name : String) : Reader :=
  let e := Environment.named name false
  match r.changeFeature? (·.withEnvironment e) with
  | none => r
  | some r => { r with place := .within .environment, environment := some e.slug, toggled := false }

def openConditions (r : Reader) : Reader :=
  { r with place := .conditions (if r.place = .within .environment then .environment else .feature) }

def applyChecklist (r : Reader) (items : List Node) : Reader :=
  if r.toggled then r
  else
    match checklistState? items with
    | none => r
    | some checked =>
      match r.place with
      | .within level =>
        { (r.change? level ({ · with enabled := checked }) ({ · with enabled := checked })).getD r with toggled := true }
      | _ => r

def addConditions (r : Reader) (level : Level) (items : List Node) : Reader :=
  let conditions := items.filterMap conditionOf?
  (r.change? level (conditions.foldl Feature.withCondition ·) (conditions.foldl Environment.withCondition ·)).getD r

def stepPlain (r : Reader) (n : Node) : Reader :=
  if r.place = .outside then r
  else if n.isHeading 3 then r.openEnvironment n.headingText
  else if isConditionsHeading n then r.openConditions
  else if n.kind = .list then r.applyChecklist n.children
  else r

def step (r : Reader) (n : Node) : Reader :=
  if n.isHeading 2 then r.openFeature n.headingText
  else
    match r.place with
    | .conditions level =>
      if n.kind = .list then r.addConditions level n.children else { r with place := .within level }.stepPlain n
    | _ => r.stepPlain n

end Reader

namespace Scope

def level? : Scope → Option Level
  | .outside => none
  | .feature _ => some .feature
  | .environment _ _ => some .environment

def feature? : Scope → Option String
  | .outside => none
  | .feature slug => some slug
  | .environment slug _ => some slug

def environment? : Scope → Option String
  | .environment _ slug => some slug
  | _ => none

theorem ne_outside {s : Scope} {level : Level} (hl : s.level? = some level) : s ≠ .outside := by
  rintro rfl
  cases hl

end Scope

namespace Draft

variable {d : Draft} {n : Node} {f : Feature} {e? : Option Environment} {φ : Feature → Feature} {ψ : Environment → Environment}

/-- The slugs of what is open lead to this feature, and to this environment of it if one is open. -/
inductive Opens (d : Draft) : Feature → Option Environment → Prop
  | feature {slug : String} {f : Feature} (hs : d.scope = .feature slug) (hf : d.features.get? slug = some f) :
      Opens d f none
  | environment {feature slug : String} {f : Feature} {e : Environment} (hs : d.scope = .environment feature slug)
      (hf : d.features.get? feature = some f) (he : f.environments.get? slug = some e) : Opens d f (some e)

def Resolves (d : Draft) : Prop := d.scope = .outside ∨ ∃ f e?, d.Opens f e?

theorem Opens.congr {d' : Draft} (h : d.Opens f e?) (hfeatures : d'.features = d.features) (hscope : d'.scope = d.scope) :
    d'.Opens f e? := by
  cases h with
  | feature hs hf => exact .feature (hscope.trans hs) (hfeatures ▸ hf)
  | environment hs hf he => exact .environment (hscope.trans hs) (hfeatures ▸ hf) he

theorem Opens.within (h : d.Opens f e?) : ∃ slug, d.Within slug ∧ d.features.get? slug = some f := by
  cases h with
  | feature hs hf => exact ⟨_, .inl hs, hf⟩
  | environment hs hf _ => exact ⟨_, .inr ⟨_, hs⟩, hf⟩

theorem Opens.level (h : d.Opens f e?) : ∃ level, d.scope.level? = some level := by
  cases h with
  | feature hs _ | environment hs _ _ =>
      rw [hs]
      exact ⟨_, rfl⟩

theorem Opens.edit_feature (h : d.Opens f none) (φ : Feature → Feature) (ψ : Environment → Environment) :
    (d.edit φ ψ).Opens (φ f) none := by
  cases h with
  | feature hs hf =>
      refine .feature ((scope_edit d φ ψ).trans hs) ?_
      rw [edit_of_feature hs]
      dsimp only
      rw [SlugMap.get?_modify, if_pos rfl, hf, Option.map_some]

theorem Opens.edit_environment {e : Environment} (h : d.Opens f (some e)) (φ : Feature → Feature)
    (ψ : Environment → Environment) : ∃ f', (d.edit φ ψ).Opens f' (some (ψ e)) := by
  cases h with
  | @environment feature slug _ _ hs hf he =>
      refine ⟨{ f with environments := f.environments.modify slug ψ }, .environment ((scope_edit d φ ψ).trans hs) ?_ ?_⟩
      · rw [edit_of_environment hs]
        dsimp only
        rw [SlugMap.get?_modify, if_pos rfl, hf, Option.map_some]
      · rw [SlugMap.get?_modify, if_pos rfl, he, Option.map_some]

theorem opens_openFeature (d : Draft) (name : String) : (d.openFeature name).Opens (.named name false) none := by
  refine .feature rfl ?_
  rw [openFeature, FeatureSet.add, SlugMap.get?_insert, if_pos rfl]

theorem Opens.openEnvironment (h : d.Opens f e?) (name : String) :
    (d.openEnvironment name).Opens (f.withEnvironment (.named name false)) (some (.named name false)) := by
  obtain ⟨slug, hd, hf⟩ := h.within
  rw [openEnvironment_of_within hd]
  refine .environment rfl ?_ ?_
  · dsimp only
    rw [SlugMap.get?_modify, if_pos rfl, hf, Option.map_some]
  · exact (SlugMap.get?_insert _ _ _ _).trans (if_pos rfl)

theorem applyChecklist_of_checked (ht : d.toggled = false) {items : List Node} {checked : Bool}
    (hchecked : checklistState? items = some checked) : d.applyChecklist items =
      { d.edit ({ · with enabled := checked }) ({ · with enabled := checked }) with toggled := true } := by
  rw [applyChecklist, ht, if_neg Bool.false_ne_true, hchecked]

theorem Resolves.edit (h : d.Resolves) (φ : Feature → Feature) (ψ : Environment → Environment) : (d.edit φ ψ).Resolves := by
  obtain hs | ⟨f, e?, h⟩ := h
  · exact .inl ((scope_edit d φ ψ).trans hs)
  · cases e? with
    | none => exact .inr ⟨_, _, h.edit_feature φ ψ⟩
    | some e =>
        obtain ⟨f', hf'⟩ := h.edit_environment φ ψ
        exact .inr ⟨f', _, hf'⟩

theorem Resolves.congr {d' : Draft} (h : d.Resolves) (hfeatures : d'.features = d.features) (hscope : d'.scope = d.scope) :
    d'.Resolves := by
  obtain hs | ⟨f, e?, h⟩ := h
  · exact .inl (hscope.trans hs)
  · exact .inr ⟨f, e?, h.congr hfeatures hscope⟩

theorem Resolves.applyChecklist (h : d.Resolves) (items : List Node) : (d.applyChecklist items).Resolves := by
  rw [Draft.applyChecklist]
  split
  · exact h
  · split
    · exact h
    · exact (h.edit _ _).congr rfl rfl

theorem Resolves.stepWithin (h : d.Resolves) (n : Node) : (d.stepWithin n).Resolves := by
  rw [Draft.stepWithin]
  split
  · obtain hs | ⟨f, e?, h⟩ := h
    · refine .inl ?_
      rw [openEnvironment, hs]
      exact hs
    · exact .inr ⟨_, _, h.openEnvironment _⟩
  · split
    · exact h.congr rfl rfl
    · split
      · exact h.applyChecklist _
      · exact h

theorem Resolves.step (h : d.Resolves) (n : Node) : (d.step n).Resolves := by
  rw [Draft.step]
  split
  · exact .inr ⟨_, _, opens_openFeature d _⟩
  · split
    · exact h.edit _ _
    · have hclosed : ({ d with inConditions := false } : Draft).Resolves := h.congr rfl rfl
      dsimp only
      split
      · exact hclosed
      · exact hclosed.stepWithin n

end Draft

namespace Reader

variable {d : Draft} {n : Node} {f : Feature} {e? : Option Environment} {level : Level}

def ofDraft (d : Draft) : Reader where
  features := d.features
  place := d.scope.level?.elim .outside fun level => if d.inConditions then .conditions level else .within level
  feature := d.scope.feature?
  environment := d.scope.environment?
  toggled := d.toggled

theorem currentFeature?_ofDraft (h : d.Opens f e?) : (ofDraft d).currentFeature? = some f := by
  cases h with
  | feature hs hf | environment hs hf _ =>
      rw [currentFeature?, ofDraft, hs]
      exact hf

theorem currentEnvironment?_ofDraft (h : d.Opens f e?) : (ofDraft d).currentEnvironment? = e? := by
  have hcurrent := currentFeature?_ofDraft h
  rw [currentEnvironment?, hcurrent]
  cases h with
  | feature hs hf =>
      rw [ofDraft, hs]
      rfl
  | environment hs hf he =>
      rw [ofDraft, hs]
      exact he

theorem place_ofDraft (hl : d.scope.level? = some level) :
    (ofDraft d).place = if d.inConditions then .conditions level else .within level := by
  rw [ofDraft, hl]
  rfl

theorem level?_place_ofDraft (d : Draft) : (ofDraft d).place.level? = d.scope.level? := by
  cases hl : d.scope.level? with
  | none =>
      rw [ofDraft, hl]
      rfl
  | some level =>
      rw [place_ofDraft hl]
      split
      · rfl
      · rfl

theorem place_eq_within_iff :
    (ofDraft d).place = .within level ↔ d.scope.level? = some level ∧ d.inConditions = false := by
  constructor
  · intro hplace
    have hl : d.scope.level? = some level := by
      rw [← level?_place_ofDraft, hplace]
      rfl
    refine ⟨hl, Bool.eq_false_iff.2 fun hc => ?_⟩
    rw [place_ofDraft hl, if_pos hc] at hplace
    cases hplace
  · rintro ⟨hl, hc⟩
    rw [place_ofDraft hl, hc, if_neg Bool.false_ne_true]

theorem place_eq_conditions_iff :
    (ofDraft d).place = .conditions level ↔ d.scope.level? = some level ∧ d.inConditions = true := by
  constructor
  · intro hplace
    have hl : d.scope.level? = some level := by
      rw [← level?_place_ofDraft, hplace]
      rfl
    refine ⟨hl, Bool.of_not_eq_false fun hc => ?_⟩
    rw [place_ofDraft hl, hc] at hplace
    cases hplace
  · rintro ⟨hl, hc⟩
    rw [place_ofDraft hl, if_pos hc]

theorem feature_ofDraft {slug : String} (hd : d.Within slug) : (ofDraft d).feature = some slug := by
  obtain hs | ⟨e, hs⟩ := hd
  · rw [ofDraft, hs]
    rfl
  · rw [ofDraft, hs]
    rfl

theorem changeFeature?_ofDraft {slug : String} (hd : d.Within slug) (hf : d.features.get? slug = some f)
    (φ : Feature → Feature) :
    (ofDraft d).changeFeature? φ = some (ofDraft { d with features := d.features.modify slug φ }) := by
  have hget : (ofDraft d).features.get? slug = some f := hf
  rw [SlugMap.modify_of_get? hf, changeFeature?, feature_ofDraft hd, Option.bind_some, hget]
  exact congrArg some (congrArg (Reader.mk _ _ · _ _) (feature_ofDraft hd).symm)

theorem change?_ofDraft (h : d.Opens f e?) (hl : d.scope.level? = some level) (φ : Feature → Feature)
    (ψ : Environment → Environment) : (ofDraft d).change? level φ ψ = some (ofDraft (d.edit φ ψ)) := by
  have henvironment := currentEnvironment?_ofDraft h
  cases h with
  | feature hs hf =>
      rw [hs] at hl
      cases hl
      rw [change?, changeFeature?_ofDraft (.inl hs) hf, Draft.edit_of_feature hs]
  | @environment feature slug f e hs hf he =>
      have hslug : (ofDraft d).environment = some slug := by
        rw [ofDraft, hs]
        rfl
      rw [hs] at hl
      cases hl
      rw [change?, changeEnvironment?, hslug, Option.bind_some, henvironment, Option.bind_some,
        changeFeature?_ofDraft (.inr ⟨slug, hs⟩) hf, Draft.edit_of_environment hs, SlugMap.modify_of_get? hf,
        SlugMap.modify_of_get? hf, SlugMap.modify_of_get? he]

theorem openFeature_ofDraft (d : Draft) (name : String) : (ofDraft d).openFeature name = ofDraft (d.openFeature name) := rfl

theorem openEnvironment_ofDraft (h : d.Opens f e?) (name : String) :
    (ofDraft d).openEnvironment name = ofDraft (d.openEnvironment name) := by
  obtain ⟨slug, hd, hf⟩ := h.within
  rw [openEnvironment, changeFeature?_ofDraft hd hf, Draft.openEnvironment_of_within hd]
  exact congrArg (Reader.mk _ _ · _ _) (feature_ofDraft hd)

theorem openConditions_ofDraft (hl : d.scope.level? = some level) (hc : d.inConditions = false) :
    (ofDraft d).openConditions = ofDraft { d with inConditions := true } := by
  rw [openConditions, place_eq_within_iff.2 ⟨hl, hc⟩]
  cases level with
  | feature | environment => simp [ofDraft, hl]

theorem applyChecklist_ofDraft (h : d.Opens f e?) (hl : d.scope.level? = some level) (hc : d.inConditions = false)
    (items : List Node) : (ofDraft d).applyChecklist items = ofDraft (d.applyChecklist items) := by
  have htoggled : (ofDraft d).toggled = d.toggled := rfl
  rw [applyChecklist, htoggled]
  cases ht : d.toggled with
  | true => rw [if_pos rfl, Draft.applyChecklist, ht, if_pos rfl]
  | false =>
      rw [if_neg Bool.false_ne_true]
      cases hchecked : Draft.checklistState? items with
      | none => rw [Draft.applyChecklist, ht, if_neg Bool.false_ne_true, hchecked]
      | some checked =>
          rw [place_eq_within_iff.2 ⟨hl, hc⟩, Draft.applyChecklist_of_checked ht hchecked]
          dsimp only
          rw [change?_ofDraft h hl, Option.getD_some]
          rfl

theorem addConditions_ofDraft (h : d.Opens f e?) (hl : d.scope.level? = some level) (items : List Node) :
    (ofDraft d).addConditions level items = ofDraft (d.addConditions items) := by
  rw [addConditions, change?_ofDraft h hl, Option.getD_some, Draft.addConditions]

theorem stepPlain_ofDraft (h : d.Opens f e?) (hl : d.scope.level? = some level) (hc : d.inConditions = false)
    (n : Node) : (ofDraft d).stepPlain n = ofDraft (d.stepWithin n) := by
  have hplace : (ofDraft d).place ≠ .outside := by
    rw [place_eq_within_iff.2 ⟨hl, hc⟩]
    exact Place.noConfusion
  rw [stepPlain, if_neg hplace, Draft.stepWithin]
  split
  · exact openEnvironment_ofDraft h _
  · split
    · exact openConditions_ofDraft hl hc
    · split
      · exact applyChecklist_ofDraft h hl hc _
      · rfl

theorem ofDraft_closed (hl : d.scope.level? = some level) :
    { ofDraft d with place := .within level } = ofDraft { d with inConditions := false } :=
  congrArg (Reader.mk _ · _ _ _) (place_ofDraft (d := { d with inConditions := false }) hl).symm

theorem ofDraft_of_outside (hs : d.scope = .outside) (b : Bool) : ofDraft { d with inConditions := b } = ofDraft d := by
  rw [ofDraft, ofDraft, hs]
  rfl

theorem step_ofDraft_of_outside (hs : d.scope = .outside) (hn : n.isHeading 2 = false) :
    (ofDraft d).step n = ofDraft (d.step n) := by
  have hplace : (ofDraft d).place = .outside := by
    rw [ofDraft, hs]
    rfl
  have hdraft : ofDraft (d.step n) = ofDraft d := by
    by_cases hlist : d.inConditions = true ∧ n.kind = .list
    · rw [Draft.step_of_condition_list hn hlist.1 hlist.2, Draft.addConditions, Draft.edit_of_outside hs]
    · rw [Draft.step_of_outside hn (fun hc hkind => hlist ⟨hc, hkind⟩) hs, ofDraft_of_outside hs]
  rw [hdraft, step, hn, if_neg Bool.false_ne_true, hplace, stepPlain, if_pos hplace]

theorem step_ofDraft_of_opens (h : d.Opens f e?) (hn : n.isHeading 2 = false) :
    (ofDraft d).step n = ofDraft (d.step n) := by
  obtain ⟨level, hl⟩ := h.level
  have hscope : d.scope ≠ .outside := Scope.ne_outside hl
  have hclosed : ({ d with inConditions := false } : Draft).Opens f e? := h.congr rfl rfl
  have hwithin := stepPlain_ofDraft hclosed hl rfl n
  rw [step, hn, if_neg Bool.false_ne_true, place_ofDraft hl]
  cases hc : d.inConditions with
  | false =>
      have hself : ({ d with inConditions := false } : Draft) = d := by rw [← hc]
      rw [Draft.step_of_within hn (by simp [hc]) hscope, ← hwithin, hself]
      rfl
  | true =>
      rw [if_pos rfl]
      dsimp only
      split
      · next hlist => rw [addConditions_ofDraft h hl, Draft.step_of_condition_list hn hc hlist]
      · next hlist => rw [Draft.step_of_within hn (fun _ => hlist) hscope, ← hwithin, ofDraft_closed hl]

theorem step_ofDraft (h : d.Resolves) (n : Node) : (ofDraft d).step n = ofDraft (d.step n) := by
  cases hn : n.isHeading 2 with
  | true => rw [step, if_pos hn, openFeature_ofDraft, Draft.step_of_feature hn]
  | false =>
      obtain hs | ⟨f, e?, h⟩ := h
      · exact step_ofDraft_of_outside hs hn
      · exact step_ofDraft_of_opens h hn

theorem foldl_ofDraft (h : d.Resolves) (ns : List Node) :
    ns.foldl step (ofDraft d) = ofDraft (ns.foldl Draft.step d) ∧ (ns.foldl Draft.step d).Resolves := by
  induction ns generalizing d with
  | nil => exact ⟨rfl, h⟩
  | cons n ns ih =>
      rw [List.foldl_cons, List.foldl_cons, step_ofDraft h]
      exact ih (h.step n)

/-- The slugs that a reader keeps are those that its place calls for. They lead to a feature, and to an environment of it. -/
structure Resolves (r : Reader) : Prop where
  feature (hplace : r.place ≠ .outside) : ∃ slug f, r.feature = some slug ∧ r.features.get? slug = some f
  environment (hplace : r.place.level? = some .environment) :
    ∃ slug f e, r.environment = some slug ∧ r.currentFeature? = some f ∧ f.environments.get? slug = some e
  own (hplace : r.place.level? = some .feature) : r.environment = none

/-- What is open at this level for the first reader is found, and is changed for the second one. -/
def Changes (r r' : Reader) (level : Level) (φ : Feature → Feature) (ψ : Environment → Environment) : Prop :=
  match level with
  | .feature => ∃ f, r.currentFeature? = some f ∧ r'.currentFeature? = some (φ f)
  | .environment => ∃ e, r.currentEnvironment? = some e ∧ r'.currentEnvironment? = some (ψ e)

/-- Whatever change the node asks for is made. -/
structure Heeds (r : Reader) (n : Node) : Prop where
  environment (hplace : r.place ≠ .outside) (hn : n.isHeading 3 = true) :
    ∃ f, r.currentFeature? = some f ∧
      (r.step n).currentFeature? = some (f.withEnvironment (.named n.headingText false)) ∧
      (r.step n).currentEnvironment? = some (.named n.headingText false)
  state {level : Level} (hplace : r.place = .within level) (hn : n.kind = .list) (htoggled : r.toggled = false)
    {checked : Bool} (hchecked : Draft.checklistState? n.children = some checked) :
    r.Changes (r.step n) level ({ · with enabled := checked }) ({ · with enabled := checked })
  conditions {level : Level} (hplace : r.place = .conditions level) (hn : n.kind = .list) :
    r.Changes (r.step n) level ((n.children.filterMap Draft.conditionOf?).foldl Feature.withCondition ·)
      ((n.children.filterMap Draft.conditionOf?).foldl Environment.withCondition ·)

theorem opens_of_place (h : d.Resolves) (hplace : (ofDraft d).place ≠ .outside) : ∃ f e?, d.Opens f e? := by
  refine h.resolve_left fun hs => hplace ?_
  rw [ofDraft, hs]
  rfl

theorem resolves_ofDraft (h : d.Resolves) : (ofDraft d).Resolves where
  feature hplace := by
    obtain ⟨f, e?, h⟩ := opens_of_place h hplace
    obtain ⟨slug, hd, hf⟩ := h.within
    exact ⟨slug, f, feature_ofDraft hd, hf⟩
  environment hplace := by
    rw [level?_place_ofDraft] at hplace
    obtain hs | ⟨f, e?, h⟩ := h
    · rw [hs] at hplace
      cases hplace
    · have hfeature := currentFeature?_ofDraft h
      cases h with
      | feature hs _ =>
          rw [hs] at hplace
          cases hplace
      | @environment _ slug f e hs hf he =>
          refine ⟨slug, f, e, ?_, hfeature, he⟩
          rw [ofDraft, hs]
          rfl
  own hplace := by
    rw [level?_place_ofDraft] at hplace
    rw [ofDraft]
    cases hs : d.scope with
    | outside | feature slug => rfl
    | environment feature slug =>
        rw [hs] at hplace
        cases hplace

theorem changes_ofDraft {d' : Draft} {φ : Feature → Feature} {ψ : Environment → Environment} (h : d.Opens f e?)
    (hl : d.scope.level? = some level) (hfeatures : d'.features = (d.edit φ ψ).features) (hscope : d'.scope = d.scope) :
    (ofDraft d).Changes (ofDraft d') level φ ψ := by
  have hscope' : d'.scope = (d.edit φ ψ).scope := hscope.trans (Draft.scope_edit d φ ψ).symm
  cases e? with
  | none =>
      obtain rfl : Level.feature = level := by
        cases h with
        | feature hs _ =>
            rw [hs] at hl
            exact Option.some.inj hl
      exact ⟨f, currentFeature?_ofDraft h, currentFeature?_ofDraft ((h.edit_feature φ ψ).congr hfeatures hscope')⟩
  | some e =>
      obtain rfl : Level.environment = level := by
        cases h with
        | environment hs _ _ =>
            rw [hs] at hl
            exact Option.some.inj hl
      obtain ⟨f', hf'⟩ := h.edit_environment φ ψ
      exact ⟨e, currentEnvironment?_ofDraft h, currentEnvironment?_ofDraft (hf'.congr hfeatures hscope')⟩

theorem heeds_ofDraft (h : d.Resolves) (n : Node) : (ofDraft d).Heeds n where
  environment hplace hn := by
    obtain ⟨f, e?, hopens⟩ := opens_of_place h hplace
    obtain ⟨slug, hd, -⟩ := hopens.within
    have hnext := hopens.openEnvironment n.headingText
    rw [Draft.openEnvironment_of_within hd, ← Draft.step_environment hd hn] at hnext
    rw [step_ofDraft h]
    exact ⟨f, currentFeature?_ofDraft hopens, currentFeature?_ofDraft hnext, currentEnvironment?_ofDraft hnext⟩
  state hplace hn htoggled checked hchecked := by
    obtain ⟨hl, hc⟩ := place_eq_within_iff.1 hplace
    have hscope : d.scope ≠ .outside := Scope.ne_outside hl
    obtain ⟨f, e?, hopens⟩ := h.resolve_left hscope
    have hself : ({ d with inConditions := false } : Draft) = d := by rw [← hc]
    have hheading : n.isHeading 2 = false := Draft.isHeading_of_kind (by rw [hn]; decide) 2
    have hopen : d.inConditions = true → n.kind ≠ .list := fun h => absurd (hc.symm.trans h) Bool.noConfusion
    have hstep := Draft.step_of_within hheading hopen hscope
    rw [hself, Draft.stepWithin_of_list hn, Draft.applyChecklist_of_checked htoggled hchecked] at hstep
    rw [step_ofDraft h, hstep]
    exact changes_ofDraft hopens hl rfl (Draft.scope_edit d _ _)
  conditions hplace hn := by
    obtain ⟨hl, hc⟩ := place_eq_conditions_iff.1 hplace
    obtain ⟨f, e?, hopens⟩ := h.resolve_left (Scope.ne_outside hl)
    have hheading : n.isHeading 2 = false := Draft.isHeading_of_kind (by rw [hn]; decide) 2
    rw [step_ofDraft h, Draft.step_of_condition_list hheading hc hn]
    exact changes_ofDraft hopens hl rfl (Draft.scope_edit d _ _)

/-- Whatever nodes a reader has read, its slugs lead to what is open, no change that the next node asks for is left out, and
the features are those of the document. -/
theorem run_resolves (nodes : List Node) :
    (nodes.foldl step empty).Resolves ∧ (∀ n, (nodes.foldl step empty).Heeds n) ∧
      nodes.foldl step empty = ofDraft (nodes.foldl Draft.step .empty) := by
  have hempty : Draft.empty.Resolves := .inl rfl
  obtain ⟨hrun, hresolves⟩ := foldl_ofDraft hempty nodes
  have hstart : empty = ofDraft .empty := rfl
  rw [hstart, hrun]
  exact ⟨resolves_ofDraft hresolves, heeds_ofDraft hresolves, rfl⟩

theorem run_resolves_production :
    ∃ e, ([.heading 2 "## Login", .heading 3 "### Production", .heading 4 "#### Conditions"].foldl step
        empty).currentEnvironment? = some e ∧
      (([.heading 2 "## Login", .heading 3 "### Production", .heading 4 "#### Conditions"].foldl step empty).step
        (.list [.item "- [x] Staff"])).currentEnvironment? = some (e.withCondition (.named "Staff" true)) := by
  have hplace : ([.heading 2 "## Login", .heading 3 "### Production", .heading 4 "#### Conditions"].foldl step
      empty).place = .conditions .environment := by decide +kernel
  have htold : (Node.list [.item "- [x] Staff"]).children.filterMap Draft.conditionOf? = [.named "Staff" true] := by
    decide +kernel
  obtain ⟨e, he, hnext⟩ := ((run_resolves _).2.1 (.list [.item "- [x] Staff"])).conditions hplace rfl
  rw [htold] at hnext
  exact ⟨e, he, hnext⟩

end Reader

end FlagSheet
