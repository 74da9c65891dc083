import FlagSheet.Evaluation
import FlagSheet.Proofs.SlugMap
import Mathlib.Data.List.Basic

namespace FlagSheet

namespace Feature

/-- Its own state decides about a feature without environments, the state of the environment about any other. -/
def On (f : Feature) (environment : String) : Prop :=
  (f.hasEnvironments = false ∧ f.enabled = true) ∨
    (f.hasEnvironments = true ∧ ∃ e, f.environments.get? environment = some e ∧ e.enabled = true)

def GatedBy (f : Feature) (environment : String) (condition : Condition) : Prop :=
  condition ∈ f.conditions.values ∨
    (f.hasEnvironments = true ∧ ∃ e, f.environments.get? environment = some e ∧ condition ∈ e.conditions.values)

variable {f : Feature} {environment : String}

instance : Decidable (f.On environment) :=
  inferInstanceAs (Decidable ((f.hasEnvironments = false ∧ f.enabled = true) ∨
    (f.hasEnvironments = true ∧ ∃ e ∈ f.environments.get? environment, e.enabled = true)))

def gates (f : Feature) (environment : String) : List Condition :=
  f.conditions.values ++
    if f.hasEnvironments then ((f.environments.get? environment).map (·.conditions.values)).getD [] else []

theorem activeConditions?_eq (f : Feature) (environment : String) :
    f.activeConditions? environment = if f.On environment then some (f.gates environment) else none := by
  cases hf : f.hasEnvironments with
  | false => simp [activeConditions?, On, gates, hf]
  | true => cases he : f.environments.get? environment <;> simp [activeConditions?, On, gates, hf, he]

theorem mem_gates {condition : Condition} : condition ∈ f.gates environment ↔ f.GatedBy environment condition := by
  rw [gates, GatedBy, List.mem_append]
  cases hf : f.hasEnvironments with
  | false => simp
  | true => cases he : f.environments.get? environment <;> simp

theorem activeConditions?_of_on (h : f.On environment) :
    ∃ conditions, f.activeConditions? environment = some conditions :=
  ⟨f.gates environment, by rw [activeConditions?_eq, if_pos h]⟩

theorem mem_activeConditions? {conditions : List Condition} (h : f.activeConditions? environment = some conditions) :
    f.On environment ∧ ∀ condition, condition ∈ conditions ↔ f.GatedBy environment condition := by
  rw [activeConditions?_eq] at h
  obtain ⟨hon, hgates⟩ := Option.ite_none_right_eq_some.1 h
  cases Option.some.inj hgates
  exact ⟨hon, fun _ => mem_gates⟩

end Feature

namespace Registry

/-- There is a predicate for the condition, and it holds of the context. -/
def Meets (r : Registry) (c : Context) (condition : Condition) : Prop :=
  ∃ p, SlugMap.get? r condition.slug = some p ∧ p.holds c = true

theorem consult_iff (r : Registry) (c : Context) (conditions : List Condition) :
    (r.consult c conditions).1 = true ↔ ∀ condition ∈ conditions, condition.armed = true → r.Meets c condition := by
  induction conditions with
  | nil => simp [consult]
  | cons condition rest ih =>
      rw [List.forall_mem_cons, ← ih]
      cases harmed : condition.armed with
      | false => simp [consult, harmed]
      | true => cases hp : SlugMap.get? r condition.slug <;> simp [consult, harmed, hp, Meets]

end Registry

namespace Evaluation

theorem mem_candidates {environment : String} {fs : List Feature} {f : Feature} {conditions : List Condition} :
    (f, conditions) ∈ candidates environment fs ↔ f ∈ fs ∧ f.activeConditions? environment = some conditions := by
  rw [candidates, List.mem_filterMap]
  constructor
  · rintro ⟨f', hf', hactive⟩
    obtain ⟨conditions', hconditions, hpair⟩ := Option.map_eq_some_iff.1 hactive
    obtain ⟨rfl, rfl⟩ := Prod.mk.inj hpair
    exact ⟨hf', hconditions⟩
  · rintro ⟨hf, hactive⟩
    exact ⟨f, hf, by rw [hactive, Option.map_some]⟩

theorem mem_admitted {r : Registry} {c : Context} {cs : List (Feature × List Condition)} {slug : String} :
    slug ∈ admitted cs (verdicts r c cs) ↔
      ∃ f conditions, (f, conditions) ∈ cs ∧ f.slug = slug ∧ (r.consult c conditions).1 = true := by
  have haligned : cs.zip (verdicts r c cs) = cs.map fun candidate => (candidate, r.consult c candidate.2) := by
    simpa [verdicts] using List.zip_map' (f := id) (g := fun candidate => r.consult c candidate.2) (l := cs)
  rw [admitted, haligned, List.filterMap_map, List.mem_filterMap]
  simp [and_comm]

end Evaluation

/-- A slug is enabled just when some feature of the set has it that is on in the environment of this name and whose
armed conditions there are all met, under whatever keys features and conditions are kept. -/
theorem FeatureSet.mem_evaluate (fs : FeatureSet) (environment : String) (c : Context) (r : Registry) (slug : String) :
    slug ∈ (fs.evaluate environment c r).enabled.toList ↔
      ∃ f ∈ SlugMap.values fs, f.slug = slug ∧ f.On (slugify environment) ∧
        ∀ condition, f.GatedBy (slugify environment) condition → condition.armed = true → r.Meets c condition := by
  rw [evaluate, SlugSet.mem_toList_ofList, Evaluation.mem_admitted]
  simp only [Evaluation.mem_candidates, Registry.consult_iff]
  constructor
  · rintro ⟨f, conditions, ⟨hf, hactive⟩, hslug, hmet⟩
    obtain ⟨hon, hgated⟩ := Feature.mem_activeConditions? hactive
    exact ⟨f, hf, hslug, hon, fun condition hgate => hmet condition ((hgated condition).2 hgate)⟩
  · rintro ⟨f, hf, hslug, hon, hmet⟩
    obtain ⟨conditions, hactive⟩ := Feature.activeConditions?_of_on hon
    obtain ⟨-, hgated⟩ := Feature.mem_activeConditions? hactive
    exact ⟨f, conditions, ⟨hf, hactive⟩, hslug, fun condition hmem => hmet condition ((hgated condition).1 hmem)⟩

end FlagSheet
