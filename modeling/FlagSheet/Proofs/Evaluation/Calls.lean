import FlagSheet.Proofs.Evaluation

namespace FlagSheet

/-- The features that are on in the environment under this slug, each with every armed condition that gates it. -/
def FeatureSet.armedPairs (fs : FeatureSet) (environment : String) : List (Feature × Condition) :=
  ((SlugMap.values fs).filter (·.On environment)).flatMap fun f =>
    ((f.gates environment).filter (·.armed)).map fun condition => (f, condition)

theorem Registry.calls_consult (r : Registry) (c : Context) (conditions : List Condition) :
    (r.consult c conditions).2 = ((conditions.filter (·.armed)).map (·.slug)).filter (SlugMap.contains r) := by
  induction conditions with
  | nil => rfl
  | cons condition rest ih =>
      cases harmed : condition.armed with
      | false => simp [consult, harmed, ih]
      | true => cases hp : SlugMap.get? r condition.slug <;> simp [consult, harmed, hp, ih, SlugMap.contains]

theorem Evaluation.candidates_eq (environment : String) (fs : List Feature) :
    candidates environment fs = (fs.filter (·.On environment)).map fun f => (f, f.gates environment) := by
  induction fs with
  | nil => rfl
  | cons f fs ih =>
      rw [candidates] at ih ⊢
      rw [List.filterMap_cons, ih, Feature.activeConditions?_eq]
      by_cases hf : f.On environment <;> simp [hf]

namespace FeatureSet

theorem calls_evaluate (fs : FeatureSet) (environment : String) (c : Context) (r : Registry) :
    (fs.evaluate environment c r).calls =
      ((fs.armedPairs (slugify environment)).map (·.2.slug)).filter (SlugMap.contains r) := by
  simp only [evaluate, Evaluation.verdicts, Evaluation.candidates_eq, armedPairs, List.map_map, List.flatMap_map,
    List.map_flatMap, List.filter_flatMap, Function.comp_def, Registry.calls_consult]

/-- The predicate under a slug is called once for each armed condition with this slug that gates a feature which is on.
The calls stay the same under other answers, as long as the slugs do. -/
theorem count_calls (fs : FeatureSet) (environment : String) (c : Context) (r : Registry) :
    (∀ slug, (fs.evaluate environment c r).calls.count slug =
      if SlugMap.contains r slug then (fs.armedPairs (slugify environment)).countP (·.2.slug = slug) else 0) ∧
    ∀ (c' : Context) (r' : Registry), SlugMap.keys r' = SlugMap.keys r →
      (fs.evaluate environment c' r').calls = (fs.evaluate environment c r).calls := by
  constructor
  · intro slug
    rw [calls_evaluate]
    cases hslug : SlugMap.contains r slug with
    | false =>
        have hnot : slug ∉ ((fs.armedPairs (slugify environment)).map (·.2.slug)).filter (SlugMap.contains r) := by
          simp [hslug]
        simp [List.count_eq_zero_of_not_mem hnot]
    | true =>
        rw [List.count_filter hslug, List.count, List.countP_map, if_pos rfl]
        rfl
  · intro c' r' hkeys
    have hcontains : SlugMap.contains r' = SlugMap.contains r := by
      funext slug
      rw [Bool.eq_iff_iff, SlugMap.contains_iff, SlugMap.contains_iff, hkeys]
    rw [calls_evaluate, calls_evaluate, hcontains]

/-- The condition gates one feature twice, of its own and in the environment, and another one once; the feature that is
off in the environment has it as well. All predicates fail in the one registry, and hold in the other. -/
theorem count_calls_staff :
    let staff := Condition.named "Staff" true
    let on := (Environment.named "Production" true).withCondition staff
    let fs := ofFeatures [((Feature.named "Login" false).withCondition staff).withEnvironment on,
      (Feature.named "Search" true).withCondition staff,
      ((Feature.named "Export" true).withCondition staff).withEnvironment (.named "Production" false)]
    let holding := Registry.ofPredicates [⟨"Staff", fun _ => true⟩]
    let failing := Registry.ofPredicates [⟨"staff", fun _ => false⟩]
    (fs.evaluate "production" ∅ failing).calls.count "staff" = 3 ∧
      (fs.evaluate "production" ∅ holding).calls = (fs.evaluate "production" ∅ failing).calls := by
  intro staff on fs holding failing
  obtain ⟨hcount, hcongr⟩ := count_calls fs "production" ∅ failing
  have hthree : (if SlugMap.contains failing "staff" then
      (fs.armedPairs (slugify "production")).countP (·.2.slug = "staff") else 0) = 3 := by decide +kernel
  exact ⟨(hcount "staff").trans hthree, hcongr ∅ holding (by decide +kernel)⟩

end FeatureSet

end FlagSheet
