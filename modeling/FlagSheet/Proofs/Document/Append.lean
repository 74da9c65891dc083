import FlagSheet.Proofs.Document.Step

namespace FlagSheet

namespace Draft

variable {base : FeatureSet} {d d' : Draft}

/-- The second draft is the first one on top of features that have been read before. What is open is never one of
those. -/
structure Over (base : FeatureSet) (d d' : Draft) : Prop where
  get? : ∀ k, d'.features.get? k = (d.features.get? k).or (base.get? k)
  scope : d'.scope = d.scope
  inConditions : d'.inConditions = d.inConditions
  toggled : d'.toggled = d.toggled
  isOpen : ∀ slug, d.Within slug → (d.features.get? slug).isSome = true

theorem isSome_get?_modify (fs : FeatureSet) (slug k : String) (f : Feature → Feature) :
    ((fs.modify slug f).get? k).isSome = (fs.get? k).isSome := by
  rw [SlugMap.get?_modify]
  split
  · exact Option.isSome_map
  · rfl

theorem Over.get?_modify (h : Over base d d') {slug : String} (hd : d.Within slug) (f : Feature → Feature)
    (k : String) :
    (d'.features.modify slug f).get? k = ((d.features.modify slug f).get? k).or (base.get? k) := by
  rw [SlugMap.get?_modify, SlugMap.get?_modify, h.get?]
  by_cases hk : k = slug
  · subst hk
    obtain ⟨g, hg⟩ := Option.isSome_iff_exists.1 (h.isOpen k hd)
    rw [if_pos rfl, if_pos rfl, hg]
    rfl
  · rw [if_neg hk, if_neg hk]

theorem Over.edit (h : Over base d d') (f : Feature → Feature) (g : Environment → Environment) :
    Over base (d.edit f g) (d'.edit f g) := by
  have hmodify {slug : String} (hd : d.Within slug) (φ : Feature → Feature) :
      Over base { d with features := d.features.modify slug φ } { d' with features := d'.features.modify slug φ } := by
    refine ⟨h.get?_modify hd φ, h.scope, h.inConditions, h.toggled, ?_⟩
    intro k hk
    rw [isSome_get?_modify]
    exact h.isOpen k hk
  cases hs : d.scope with
  | outside =>
      rw [edit_of_outside hs, edit_of_outside (h.scope.trans hs)]
      exact h
  | feature slug =>
      rw [edit_of_feature hs, edit_of_feature (h.scope.trans hs)]
      exact hmodify (.inl hs) f
  | environment feature slug =>
      rw [edit_of_environment hs, edit_of_environment (h.scope.trans hs)]
      exact hmodify (.inr ⟨slug, hs⟩) _

theorem Over.openFeature (h : ∀ k, d'.features.get? k = (d.features.get? k).or (base.get? k)) (name : String) :
    Over base (d.openFeature name) (d'.openFeature name) where
  get? := by
    intro k
    rw [Draft.openFeature, Draft.openFeature]
    dsimp only [FeatureSet.add]
    rw [SlugMap.get?_insert, SlugMap.get?_insert, h k]
    by_cases hk : k = (Feature.named name false).slug
    · rw [if_pos hk, if_pos hk, Option.some_or]
    · rw [if_neg hk, if_neg hk]
  scope := rfl
  inConditions := rfl
  toggled := rfl
  isOpen := by
    rintro k (hk | ⟨e, hk⟩)
    · obtain rfl : (Feature.named name false).slug = k := Scope.feature.inj hk
      rw [Draft.openFeature]
      dsimp only [FeatureSet.add]
      rw [SlugMap.get?_insert, if_pos rfl]
      rfl
    · exact Scope.noConfusion hk

theorem Over.openEnvironment (h : Over base d d') (name : String) :
    Over base (d.openEnvironment name) (d'.openEnvironment name) := by
  have hopened {slug : String} (hd : d.Within slug) :
      Over base (d.openEnvironment name) (d'.openEnvironment name) := by
    have hd' : d'.Within slug := by rwa [Within, h.scope]
    rw [openEnvironment_of_within hd, openEnvironment_of_within hd']
    refine ⟨h.get?_modify hd _, rfl, rfl, rfl, ?_⟩
    rintro k (hk | ⟨e, hk⟩)
    · exact Scope.noConfusion hk
    · obtain ⟨rfl, -⟩ := Scope.environment.inj hk
      rw [isSome_get?_modify]
      exact h.isOpen _ hd
  cases hs : d.scope with
  | outside =>
      unfold Draft.openEnvironment
      rw [h.scope, hs]
      exact h
  | feature slug => exact hopened (.inl hs)
  | environment slug e => exact hopened (.inr ⟨e, hs⟩)

theorem Over.applyChecklist (h : Over base d d') (items : List Node) :
    Over base (d.applyChecklist items) (d'.applyChecklist items) := by
  unfold Draft.applyChecklist
  rw [h.toggled]
  split
  · exact h
  · split
    · exact h
    · next checked _ =>
        have he := h.edit ({ · with enabled := checked }) ({ · with enabled := checked })
        exact ⟨he.get?, he.scope, he.inConditions, rfl, he.isOpen⟩

theorem Over.withConditions (h : Over base d d') (b : Bool) :
    Over base { d with inConditions := b } { d' with inConditions := b } :=
  ⟨h.get?, h.scope, rfl, h.toggled, h.isOpen⟩

theorem Over.stepWithin (h : Over base d d') (n : Node) : Over base (d.stepWithin n) (d'.stepWithin n) := by
  unfold Draft.stepWithin
  split
  · exact h.openEnvironment _
  · split
    · exact h.withConditions true
    · split
      · exact h.applyChecklist _
      · exact h

theorem Over.step (h : Over base d d') (n : Node) : Over base (d.step n) (d'.step n) := by
  unfold Draft.step
  rw [h.inConditions]
  split
  · exact .openFeature h.get? _
  · split
    · exact h.edit _ _
    · have hclosed := h.withConditions false
      have hscope := h.scope
      dsimp only
      split
      · next hs =>
          rw [hs] at hscope
          split
          · exact hclosed
          · next hs' => exact absurd hscope hs'
      · next hs =>
          split
          · next hs' => exact absurd (hscope.symm.trans hs') hs
          · exact hclosed.stepWithin n

theorem Over.foldl (h : Over base d d') (ns : List Node) : Over base (ns.foldl Draft.step d) (ns.foldl Draft.step d') := by
  induction ns generalizing d d' with
  | nil => exact h
  | cons n ns ih => exact ih (h.step n)

end Draft

namespace FeatureSet

/-- Behind the heading of a feature, nothing that has been read before makes a difference but for the features
themselves, which stay where no later one has their slug. -/
theorem get?_ofNodes_append (xs ys : List Node) {h : Node} (hh : h.isHeading 2 = true) (slug : String) :
    (ofNodes (xs ++ h :: ys)).get? slug = ((ofNodes (h :: ys)).get? slug).or ((ofNodes xs).get? slug) := by
  have hopen : Draft.Over (ofNodes xs) (Draft.empty.openFeature h.headingText)
      ((xs.foldl Draft.step .empty).openFeature h.headingText) := .openFeature (fun _ => rfl) _
  have hover := (hopen.foldl ys).get? slug
  rw [← Draft.step_of_feature hh, ← Draft.step_of_feature hh] at hover
  rw [ofNodes, List.foldl_append]
  exact hover

theorem get?_ofNodes_twice :
    (ofNodes ([.heading 2 "## Login", .heading 3 "### Production", .heading 4 "#### Conditions"] ++
      .heading 2 "## Login" :: [.list [.item "- [x] Enabled"]])).get? "login" =
        some ⟨"Login", "login", true, ∅, ∅⟩ :=
  (get?_ofNodes_append _ _ (by decide) "login").trans (by decide +kernel)

end FeatureSet

end FlagSheet
