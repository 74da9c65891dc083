import FlagSheet.Document
import FlagSheet.Proofs.SlugMap

namespace FlagSheet.Draft

variable {d d' : Draft} {n : Node}

def Within (d : Draft) (slug : String) : Prop := d.scope = .feature slug ∨ ∃ e, d.scope = .environment slug e

theorem edit_of_outside (hs : d.scope = .outside) (f : Feature → Feature) (g : Environment → Environment) :
    d.edit f g = d := by
  unfold edit
  rw [hs]

theorem edit_of_feature {slug : String} (hs : d.scope = .feature slug) (f : Feature → Feature)
    (g : Environment → Environment) : d.edit f g = { d with features := d.features.modify slug f } := by
  unfold edit
  rw [hs]

theorem edit_of_environment {feature slug : String} (hs : d.scope = .environment feature slug)
    (f : Feature → Feature) (g : Environment → Environment) :
    d.edit f g = { d with features := d.features.modify feature fun x =>
      { x with environments := x.environments.modify slug g } } := by
  unfold edit
  rw [hs]

theorem scope_edit (d : Draft) (f : Feature → Feature) (g : Environment → Environment) :
    (d.edit f g).scope = d.scope := by
  unfold edit
  split <;> rfl

theorem inConditions_edit (d : Draft) (f : Feature → Feature) (g : Environment → Environment) :
    (d.edit f g).inConditions = d.inConditions := by
  unfold edit
  split <;> rfl

theorem toggled_edit (d : Draft) (f : Feature → Feature) (g : Environment → Environment) :
    (d.edit f g).toggled = d.toggled := by
  unfold edit
  split <;> rfl

theorem features_edit_edit {f : Feature → Feature} {g : Environment → Environment} (hscope : d'.scope = d.scope)
    (hfeatures : d'.features = (d.edit f g).features) (f' : Feature → Feature) (g' : Environment → Environment) :
    (d'.edit f' g').features = (d.edit (f' ∘ f) (g' ∘ g)).features := by
  cases hs : d.scope with
  | outside =>
      rw [edit_of_outside hs] at hfeatures
      rw [edit_of_outside hs, edit_of_outside (hscope.trans hs), hfeatures]
  | feature slug =>
      rw [edit_of_feature hs] at hfeatures
      rw [edit_of_feature hs, edit_of_feature (hscope.trans hs), hfeatures, SlugMap.modify_modify]
  | environment feature slug =>
      rw [edit_of_environment hs] at hfeatures
      rw [edit_of_environment hs, edit_of_environment (hscope.trans hs), hfeatures]
      dsimp only
      rw [SlugMap.modify_modify]
      congr 1
      funext x
      simp only [Function.comp_apply, SlugMap.modify_modify]

theorem features_edit_id (d : Draft) : (d.edit id id).features = d.features := by
  cases hs : d.scope with
  | outside => rw [edit_of_outside hs]
  | feature slug =>
      rw [edit_of_feature hs]
      exact SlugMap.modify_id _ _
  | environment feature slug =>
      rw [edit_of_environment hs]
      simp only [SlugMap.modify_id]
      exact SlugMap.modify_id _ _

theorem step_of_feature (hn : n.isHeading 2 = true) : d.step n = d.openFeature n.headingText := by
  rw [step, if_pos hn]

theorem step_of_condition_list (hn : n.isHeading 2 = false) (hc : d.inConditions = true) (hlist : n.kind = .list) :
    d.step n = d.addConditions n.children := by
  rw [step, if_neg (by simp [hn]), if_pos (by simp [hc, hlist])]

theorem step_of_within (hn : n.isHeading 2 = false) (hc : d.inConditions = true → n.kind ≠ .list)
    (hscope : d.scope ≠ .outside) : d.step n = { d with inConditions := false }.stepWithin n := by
  have hlist : ¬(d.inConditions && decide (n.kind = .list)) = true := by simpa using hc
  rw [step, if_neg (by simp [hn]), if_neg hlist]
  dsimp only
  split
  · next h => exact absurd h hscope
  · rfl

theorem step_of_outside (hn : n.isHeading 2 = false) (hc : d.inConditions = true → n.kind ≠ .list)
    (hscope : d.scope = .outside) : d.step n = { d with inConditions := false } := by
  have hlist : ¬(d.inConditions && decide (n.kind = .list)) = true := by simpa using hc
  rw [step, if_neg (by simp [hn]), if_neg hlist]
  dsimp only
  rw [hscope]

theorem openEnvironment_of_within {slug : String} (hd : d.Within slug) (name : String) :
    d.openEnvironment name = ⟨d.features.modify slug (·.withEnvironment (.named name false)),
      .environment slug (slugify name), false, false⟩ := by
  unfold openEnvironment
  obtain hs | ⟨e, hs⟩ := hd
  · rw [hs]
    rfl
  · rw [hs]
    rfl

theorem scope_ne_of_within {slug : String} (hd : d.Within slug) : d.scope ≠ .outside := by
  obtain hs | ⟨e, hs⟩ := hd
  · rw [hs]
    exact Scope.noConfusion
  · rw [hs]
    exact Scope.noConfusion

theorem isHeading_of_kind {n : Node} (h : n.kind ≠ .heading) (depth : UInt8) : n.isHeading depth = false := by
  simp [Node.isHeading, h]

theorem kind_of_isConditionsHeading (h : isConditionsHeading n = true) : n.kind = .heading := by
  simp only [isConditionsHeading, Node.isHeading, Bool.and_eq_true, decide_eq_true_eq] at h
  exact h.1.1

theorem stepWithin_of_environment (hn : n.isHeading 3 = true) : d.stepWithin n = d.openEnvironment n.headingText := by
  rw [stepWithin, if_pos hn]

theorem stepWithin_of_list (hlist : n.kind = .list) : d.stepWithin n = d.applyChecklist n.children := by
  have hheading : n.kind ≠ .heading := by rw [hlist]; decide
  have hc : ¬isConditionsHeading n = true := fun h => hheading (kind_of_isConditionsHeading h)
  rw [stepWithin, isHeading_of_kind hheading, if_neg Bool.false_ne_true, if_neg hc, if_pos hlist]

theorem stepWithin_of_other (hn : n.isHeading 3 = false) (hlist : n.kind ≠ .list) :
    d.stepWithin n = { d with inConditions := isConditionsHeading n || d.inConditions } := by
  rw [stepWithin, if_neg (by simp [hn]), if_neg hlist]
  cases isConditionsHeading n <;> rfl

theorem isHeading_two_of_three (hn : n.isHeading 3 = true) : n.isHeading 2 = false := by
  simp only [Node.isHeading, Bool.and_eq_true, decide_eq_true_eq] at hn
  simp [Node.isHeading, hn.2]

theorem step_environment {slug : String} (hd : d.Within slug) (hn : n.isHeading 3 = true) :
    d.step n = ⟨d.features.modify slug (·.withEnvironment (Environment.named n.headingText false)),
      .environment slug (slugify n.headingText), false, false⟩ := by
  have hkind : n.kind ≠ .list := by
    intro hlist
    rw [isHeading_of_kind (by rw [hlist]; decide)] at hn
    cases hn
  have hwithin : ({ d with inConditions := false } : Draft).Within slug := hd
  rw [step_of_within (isHeading_two_of_three hn) (fun _ => hkind) (scope_ne_of_within hd),
    stepWithin_of_environment hn, openEnvironment_of_within hwithin]

end FlagSheet.Draft
