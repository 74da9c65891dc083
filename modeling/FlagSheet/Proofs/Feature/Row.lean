import FlagSheet.Feature.Row
import FlagSheet.Proofs.Document.Titled

namespace FlagSheet

def Condition.unnamed (c : Condition) : Condition := { c with name := c.slug }

def Environment.unnamed (e : Environment) : Environment :=
  { e with name := e.slug, conditions := e.conditions.map Condition.unnamed }

def Feature.unnamed (f : Feature) : Feature :=
  { f with environments := f.environments.map Environment.unnamed, conditions := f.conditions.map Condition.unnamed }

def FeatureSet.unnamed (fs : FeatureSet) : FeatureSet := SlugMap.map Feature.unnamed fs

namespace FeatureRow

def bare (row : FeatureRow) : Feature := ⟨row.feature, row.slug, row.featureEnabled, ∅, ∅⟩

def addCondition (row : FeatureRow) (conditions : SlugMap Condition) : SlugMap Condition :=
  match row.condition with
  | none => conditions
  | some (slug, enabled) => conditions.insert slug ⟨slug, slug, enabled⟩

def addToEnvironment (row : FeatureRow) (e : Environment) : Environment :=
  { e with conditions := row.addCondition e.conditions }

def addEnvironment (row : FeatureRow) (slug : String) (enabled : Bool) (es : SlugMap Environment) : SlugMap Environment :=
  es.insert slug (row.addToEnvironment ((es.get? slug).getD ⟨slug, slug, enabled, ∅⟩))

def addTo (row : FeatureRow) (f : Feature) : Feature :=
  match row.environment with
  | none => { f with conditions := row.addCondition f.conditions }
  | some (slug, enabled) => { f with environments := row.addEnvironment slug enabled f.environments }

def enter (fs : FeatureSet) (row : FeatureRow) : FeatureSet :=
  SlugMap.insert fs row.slug (row.addTo ((fs.get? row.slug).getD row.bare))

end FeatureRow

/-- The features that the rows tell of. -/
def FeatureSet.ofRows (rows : List FeatureRow) : FeatureSet := rows.foldl FeatureRow.enter ∅

namespace SlugMap

variable {α β : Type}

theorem foldl_insert_values {m : SlugMap α} {key : α → String} (h : m.All fun k v => key v = k) (g : α → β) :
    m.values.foldl (fun n v => n.insert (key v) (g v)) ∅ = m.map g := by
  have hentries : (m.values.map fun v => (key v, g v)) = (m.map g).entries := by
    rw [values, map, List.map_map]
    apply List.map_congr_left
    rintro ⟨k, v⟩ hmem
    exact congrArg (·, g v) (h k v (mem_entries_iff.1 hmem))
  rw [← ofList_entries (m.map g), ← hentries, ofList, List.foldl_map]
  rfl

theorem foldl_upsert {ρ : Type} (k : String) (start : β) (change : β → ρ → β) {l : List ρ} (hl : l ≠ [])
    (m : SlugMap β) :
    l.foldl (fun m x => m.insert k (change ((m.get? k).getD start) x)) m =
      m.insert k (l.foldl change ((m.get? k).getD start)) := by
  induction l generalizing m with
  | nil => exact absurd rfl hl
  | cons x l ih =>
      rw [List.foldl_cons, List.foldl_cons]
      cases l with
      | nil => rfl
      | cons y l => rw [ih (List.cons_ne_nil y l), get?_insert, if_pos rfl, Option.getD_some, insert_insert]

theorem foldl_of_new {key : α → String} {step : SlugMap β → α → SlugMap β} {g : α → β} {l : List α}
    (hstep : ∀ m, ∀ v ∈ l, m.get? (key v) = none → step m v = m.insert (key v) (g v)) (hl : (l.map key).Nodup)
    {m : SlugMap β} (hm : ∀ v ∈ l, m.get? (key v) = none) :
    l.foldl step m = l.foldl (fun m v => m.insert (key v) (g v)) m := by
  induction l generalizing m with
  | nil => rfl
  | cons v l ih =>
      rw [List.map_cons, List.nodup_cons] at hl
      rw [List.forall_mem_cons] at hm
      rw [List.foldl_cons, List.foldl_cons, hstep m v List.mem_cons_self hm.1]
      apply ih (fun m w hw => hstep m w (List.mem_cons_of_mem v hw)) hl.2
      intro w hw
      have hne : key w ≠ key v := fun heq => hl.1 (List.mem_map.2 ⟨w, hw, heq⟩)
      rw [get?_insert, if_neg hne, hm.2 w hw]

theorem foldl_values {m : SlugMap α} {key : α → String} (h : m.All fun k v => key v = k)
    {step : SlugMap β → α → SlugMap β} {g : α → β}
    (hstep : ∀ n, ∀ v ∈ m.values, n.get? (key v) = none → step n v = n.insert (key v) (g v)) :
    m.values.foldl step ∅ = m.map g := by
  have hkeys : (m.values.map key).Nodup := by
    rw [map_values_of_all h]
    exact m.nodup_keys
  rw [foldl_of_new hstep hkeys fun _ _ => rfl]
  exact foldl_insert_values h g

end SlugMap

namespace FeatureRow

variable {row : FeatureRow} {rows : List FeatureRow}

theorem foldl_addTo_of_none (h : ∀ row ∈ rows, row.environment = none) (f : Feature) :
    rows.foldl (fun f row => row.addTo f) f =
      { f with conditions := rows.foldl (fun m row => row.addCondition m) f.conditions } := by
  induction rows generalizing f with
  | nil => rfl
  | cons row rows ih =>
      rw [List.forall_mem_cons] at h
      rw [List.foldl_cons, ih h.2, addTo, h.1]
      rfl

theorem foldl_addTo_of_some {slug : String} {enabled : Bool}
    (h : ∀ row ∈ rows, row.environment = some (slug, enabled)) (f : Feature) :
    rows.foldl (fun f row => row.addTo f) f =
      { f with environments := rows.foldl (fun es row => row.addEnvironment slug enabled es) f.environments } := by
  induction rows generalizing f with
  | nil => rfl
  | cons row rows ih =>
      rw [List.forall_mem_cons] at h
      rw [List.foldl_cons, ih h.2, addTo, h.1]
      rfl

theorem foldl_addToEnvironment (e : Environment) :
    rows.foldl (fun e row => row.addToEnvironment e) e =
      { e with conditions := rows.foldl (fun m row => row.addCondition m) e.conditions } := by
  induction rows generalizing e with
  | nil => rfl
  | cons row rows ih => exact ih (row.addToEnvironment e)

theorem addCondition_of_none (h : row.condition = none) (m : SlugMap Condition) : row.addCondition m = m := by
  rw [addCondition, h]

theorem foldl_addCondition {m : SlugMap Condition} (h : m.All Condition.At) (row : FeatureRow) :
    (m.values.map row.withCondition).foldl (fun m row => row.addCondition m) ∅ = m.map Condition.unnamed := by
  rw [List.foldl_map]
  exact SlugMap.foldl_values h fun _ _ _ _ => rfl

end FeatureRow

namespace Environment

variable {e : Environment} {row : FeatureRow}

theorem rows_ne_nil (row : FeatureRow) (e : Environment) : e.rows row ≠ [] := by
  rw [rows]
  cases he : e.conditions.entries <;> simp [SlugMap.isEmpty, SlugMap.values, he]

theorem eq_of_mem_rows {r : FeatureRow} (h : r ∈ e.rows row) :
    ∃ condition, r = { row.inEnvironment e with condition := condition } := by
  unfold rows at h
  dsimp only at h
  split at h
  · exact ⟨_, List.mem_singleton.1 h⟩
  · obtain ⟨c, -, rfl⟩ := List.mem_map.1 h
    exact ⟨_, rfl⟩

theorem environment_of_mem_rows {r : FeatureRow} (h : r ∈ e.rows row) : r.environment = some (e.slug, e.enabled) := by
  obtain ⟨condition, rfl⟩ := eq_of_mem_rows h
  rfl

theorem bare_of_mem_rows {r : FeatureRow} (h : r ∈ e.rows row) : r.bare = row.bare := by
  obtain ⟨condition, rfl⟩ := eq_of_mem_rows h
  rfl

theorem foldl_rows {k : String} (he : e.At k) (hrow : row.condition = none) :
    (e.rows row).foldl (fun e row => row.addToEnvironment e) ⟨e.slug, e.slug, e.enabled, ∅⟩ = e.unnamed := by
  have hconditions : (e.rows row).foldl (fun m row => row.addCondition m) ∅ = e.conditions.map Condition.unnamed := by
    rw [← FeatureRow.foldl_addCondition he.conditions (row.inEnvironment e), rows]
    cases hc : e.conditions.isEmpty with
    | false => rfl
    | true =>
        have hbare : (row.inEnvironment e).addCondition ∅ = ∅ := FeatureRow.addCondition_of_none hrow ∅
        rw [SlugMap.eq_empty_of_isEmpty hc, if_pos rfl, List.foldl_cons, hbare]
        rfl
  rw [FeatureRow.foldl_addToEnvironment, hconditions]
  rfl

theorem foldl_addEnvironment {k : String} (he : e.At k) (hrow : row.condition = none) {es : SlugMap Environment}
    (hnew : es.get? e.slug = none) :
    (e.rows row).foldl (fun es row => row.addEnvironment e.slug e.enabled es) es = es.insert e.slug e.unnamed := by
  have hupsert := SlugMap.foldl_upsert e.slug ⟨e.slug, e.slug, e.enabled, ∅⟩ (fun e row => row.addToEnvironment e)
    (rows_ne_nil row e) es
  rw [hnew, Option.getD_none, foldl_rows he hrow] at hupsert
  exact hupsert

end Environment

namespace Feature

variable {f : Feature}

theorem foldl_environments (hf : f.environments.All Environment.At) (g : Feature)
    (hg : g.environments = ∅) :
    (f.environments.values.flatMap (·.rows (.ofFeature f))).foldl (fun f row => row.addTo f) g =
      { g with environments := f.environments.map Environment.unnamed } := by
  have hvalues : f.environments.values.foldl (fun es e =>
      (e.rows (.ofFeature f)).foldl (fun es row => row.addEnvironment e.slug e.enabled es) es) ∅ =
        f.environments.map Environment.unnamed := by
    apply SlugMap.foldl_values fun k e hk => (hf k e hk).slug
    intro es e he hnew
    obtain ⟨k, hk⟩ := SlugMap.mem_values.1 he
    exact Environment.foldl_addEnvironment (hf k e hk) rfl hnew
  have hstep (g : Feature) (e : Environment) : (e.rows (.ofFeature f)).foldl (fun f row => row.addTo f) g =
      { g with environments :=
        (e.rows (.ofFeature f)).foldl (fun es row => row.addEnvironment e.slug e.enabled es) g.environments } :=
    FeatureRow.foldl_addTo_of_some (fun _ => Environment.environment_of_mem_rows) g
  have hfold (es : List Environment) (g : Feature) :
      es.foldl (fun g e => (e.rows (.ofFeature f)).foldl (fun f row => row.addTo f) g) g =
        { g with environments := es.foldl (fun es e =>
          (e.rows (.ofFeature f)).foldl (fun es row => row.addEnvironment e.slug e.enabled es) es) g.environments } := by
    induction es generalizing g with
    | nil => rfl
    | cons e es ih =>
        rw [List.foldl_cons, ih, hstep]
        rfl
  rw [List.foldl_flatMap, hfold, hg, hvalues]

theorem foldl_rows {k : String} (hf : f.At k) :
    f.rows.foldl (fun f row => row.addTo f) (FeatureRow.ofFeature f).bare = f.unnamed := by
  unfold rows
  dsimp only
  split
  · next hempty =>
      obtain ⟨hc, he⟩ := Bool.and_eq_true_iff.1 hempty
      rw [unnamed, SlugMap.eq_empty_of_isEmpty hc, SlugMap.eq_empty_of_isEmpty he]
      rfl
  · have hnone : ∀ row ∈ f.conditions.values.map (FeatureRow.ofFeature f).withCondition, row.environment = none := by
      intro row hrow
      obtain ⟨c, -, rfl⟩ := List.mem_map.1 hrow
      rfl
    rw [List.foldl_append, FeatureRow.foldl_addTo_of_none hnone, foldl_environments hf.environments _ rfl]
    dsimp only [FeatureRow.bare]
    rw [FeatureRow.foldl_addCondition hf.conditions]
    rfl

theorem rows_ne_nil (f : Feature) : f.rows ≠ [] := by
  unfold rows
  dsimp only
  split
  · exact List.cons_ne_nil _ _
  · next hempty =>
      intro hrows
      obtain ⟨hc, he⟩ := List.append_eq_nil_iff.1 hrows
      rw [List.map_eq_nil_iff] at hc
      rw [List.flatMap_eq_nil_iff] at he
      have hnone : f.environments.values = [] :=
        List.eq_nil_iff_forall_not_mem.2 fun e hmem => Environment.rows_ne_nil _ e (he e hmem)
      exact hempty (by rw [← SlugMap.isEmpty_values, ← SlugMap.isEmpty_values, hc, hnone]; rfl)

theorem bare_of_mem_rows {row : FeatureRow} (h : row ∈ f.rows) : row.bare = (FeatureRow.ofFeature f).bare := by
  unfold rows at h
  dsimp only at h
  split at h
  · rw [List.mem_singleton.1 h]
  · rcases List.mem_append.1 h with h | h
    · obtain ⟨c, -, rfl⟩ := List.mem_map.1 h
      rfl
    · obtain ⟨e, -, h⟩ := List.mem_flatMap.1 h
      exact Environment.bare_of_mem_rows h

end Feature

namespace FeatureSet

variable {fs : FeatureSet}

theorem ofRows_flatten (h : fs.Filed) : ofRows fs.flatten = fs.unnamed := by
  rw [ofRows, flatten, List.foldl_flatMap]
  apply SlugMap.foldl_values fun k f hk => (h k f hk).slug
  intro n f hf hnew
  obtain ⟨k, hk⟩ := SlugMap.mem_values.1 hf
  have hupsert := SlugMap.foldl_upsert f.slug (FeatureRow.ofFeature f).bare (fun f row => row.addTo f) f.rows_ne_nil n
  rw [hnew, Option.getD_none, Feature.foldl_rows (h k f hk)] at hupsert
  rw [← hupsert]
  apply List.foldl_ext
  intro n row hrow
  have hbare := Feature.bare_of_mem_rows hrow
  have hslug : row.slug = f.slug := congrArg Feature.slug hbare
  rw [FeatureRow.enter, hbare, hslug]

end FeatureSet

theorem nodup_flatMap_of_keys {α β κ : Type} {l : List α} {f : α → List β} (key : α → κ) (key' : β → κ)
    (hl : (l.map key).Nodup) (hnodup : ∀ a ∈ l, (f a).Nodup) (hkey : ∀ a ∈ l, ∀ b ∈ f a, key' b = key a) :
    (l.flatMap f).Nodup := by
  rw [List.nodup_flatMap]
  refine ⟨hnodup, ?_⟩
  rw [List.nodup_iff_pairwise_ne, List.pairwise_map] at hl
  refine hl.imp_of_mem fun {a a'} ha ha' hne => ?_
  intro b hb hb'
  exact hne ((hkey a ha b hb).symm.trans (hkey a' ha' b hb'))

theorem FeatureRow.nodup_conditions {m : SlugMap Condition} (h : m.All Condition.At) (row : FeatureRow) :
    (m.values.map row.withCondition).Nodup := by
  apply List.Nodup.of_map fun row => row.condition.map (·.1)
  have hslugs : (m.values.map row.withCondition).map (fun row => row.condition.map (·.1)) = m.keys.map some := by
    rw [← SlugMap.map_values_of_all h, List.map_map, List.map_map]
    rfl
  rw [hslugs]
  exact m.nodup_keys.map (Option.some_injective _)

theorem Environment.nodup_rows {k : String} {e : Environment} (he : e.At k) (row : FeatureRow) : (e.rows row).Nodup := by
  unfold rows
  dsimp only
  split
  · exact List.nodup_singleton _
  · exact FeatureRow.nodup_conditions he.conditions _

theorem Feature.nodup_rows {k : String} {f : Feature} (hf : f.At k) : f.rows.Nodup := by
  unfold rows
  dsimp only
  split
  · exact List.nodup_singleton _
  · have henvironments : (f.environments.values.flatMap (·.rows (.ofFeature f))).Nodup := by
      apply nodup_flatMap_of_keys (·.slug) fun row => (row.environment.map (·.1)).getD ""
      · rw [SlugMap.map_values_of_all fun k e hk => (hf.environments k e hk).slug]
        exact f.environments.nodup_keys
      · intro e he
        obtain ⟨k, hk⟩ := SlugMap.mem_values.1 he
        exact Environment.nodup_rows (hf.environments k e hk) _
      · intro e _ row hrow
        rw [Environment.environment_of_mem_rows hrow]
        rfl
    refine (FeatureRow.nodup_conditions hf.conditions _).append henvironments ?_
    intro row hc he
    obtain ⟨c, -, rfl⟩ := List.mem_map.1 hc
    obtain ⟨e, -, he⟩ := List.mem_flatMap.1 he
    cases Environment.environment_of_mem_rows he

theorem FeatureSet.nodup_flatten {fs : FeatureSet} (h : fs.Filed) : fs.flatten.Nodup := by
  apply nodup_flatMap_of_keys (·.slug) (·.slug)
  · rw [SlugMap.map_values_of_all fun k f hk => (h k f hk).slug]
    exact SlugMap.nodup_keys fs
  · intro f hf
    obtain ⟨k, hk⟩ := SlugMap.mem_values.1 hf
    exact Feature.nodup_rows (h k f hk)
  · intro f _ row hrow
    exact congrArg Feature.slug (Feature.bare_of_mem_rows hrow)

/-- The features and what stands in them, each shown by a row. -/
structure FeatureSet.ShownIn (fs : FeatureSet) (rows : List FeatureRow) : Prop where
  feature : ∀ f ∈ SlugMap.values fs, ∃ environment condition, ⟨f.name, f.slug, f.enabled, environment, condition⟩ ∈ rows
  condition : ∀ f ∈ SlugMap.values fs, ∀ c ∈ f.conditions.values,
    ⟨f.name, f.slug, f.enabled, none, some (c.slug, c.enabled)⟩ ∈ rows
  environment : ∀ f ∈ SlugMap.values fs, ∀ e ∈ f.environments.values,
    ∃ condition, ⟨f.name, f.slug, f.enabled, some (e.slug, e.enabled), condition⟩ ∈ rows
  environmentCondition : ∀ f ∈ SlugMap.values fs, ∀ e ∈ f.environments.values, ∀ c ∈ e.conditions.values,
    ⟨f.name, f.slug, f.enabled, some (e.slug, e.enabled), some (c.slug, c.enabled)⟩ ∈ rows

theorem FeatureRow.eq_of_bare {row : FeatureRow} {f : Feature} (h : row.bare = (ofFeature f).bare) :
    row = ⟨f.name, f.slug, f.enabled, row.environment, row.condition⟩ := by
  obtain ⟨hname, hslug, henabled⟩ : row.feature = f.name ∧ row.slug = f.slug ∧ row.featureEnabled = f.enabled :=
    ⟨congrArg Feature.name h, congrArg Feature.slug h, congrArg Feature.enabled h⟩
  rw [← hname, ← hslug, ← henabled]

theorem Environment.withCondition_mem_rows {e : Environment} {c : Condition} (hc : c ∈ e.conditions.values)
    (row : FeatureRow) : (row.inEnvironment e).withCondition c ∈ e.rows row := by
  rw [rows, SlugMap.isEmpty_of_mem hc]
  exact List.mem_map_of_mem hc

namespace Feature

variable {f : Feature}

theorem withCondition_mem_rows {c : Condition} (hc : c ∈ f.conditions.values) :
    (FeatureRow.ofFeature f).withCondition c ∈ f.rows := by
  rw [rows, SlugMap.isEmpty_of_mem hc]
  exact List.mem_append_left _ (List.mem_map_of_mem hc)

theorem mem_rows_of_environment {e : Environment} (he : e ∈ f.environments.values) {row : FeatureRow}
    (hrow : row ∈ e.rows (.ofFeature f)) : row ∈ f.rows := by
  rw [rows, SlugMap.isEmpty_of_mem he, Bool.and_false]
  exact List.mem_append_right _ (List.mem_flatMap.2 ⟨e, he, hrow⟩)

end Feature

theorem FeatureSet.shownIn_flatten (fs : FeatureSet) : fs.ShownIn fs.flatten where
  feature f hf := by
    obtain ⟨row, hrow⟩ := List.exists_mem_of_ne_nil _ f.rows_ne_nil
    refine ⟨row.environment, row.condition, List.mem_flatMap.2 ⟨f, hf, ?_⟩⟩
    rwa [← FeatureRow.eq_of_bare (Feature.bare_of_mem_rows hrow)]
  condition f hf c hc := List.mem_flatMap.2 ⟨f, hf, Feature.withCondition_mem_rows hc⟩
  environment f hf e he := by
    obtain ⟨row, hrow⟩ := List.exists_mem_of_ne_nil _ (Environment.rows_ne_nil (.ofFeature f) e)
    have hmem := Feature.mem_rows_of_environment he hrow
    refine ⟨row.condition, List.mem_flatMap.2 ⟨f, hf, ?_⟩⟩
    rwa [← Environment.environment_of_mem_rows hrow, ← FeatureRow.eq_of_bare (Feature.bare_of_mem_rows hmem)]
  environmentCondition f hf e he c hc := List.mem_flatMap.2
    ⟨f, hf, Feature.mem_rows_of_environment he (Environment.withCondition_mem_rows hc (.ofFeature f))⟩

theorem Registry.consult_unnamed (r : Registry) (c : Context) (conditions : List Condition) :
    r.consult c (conditions.map Condition.unnamed) = r.consult c conditions := by
  induction conditions with
  | nil => rfl
  | cons condition conditions ih =>
      rw [List.map_cons, consult, consult, ih]
      rfl

theorem Feature.activeConditions?_unnamed (f : Feature) (environment : String) :
    f.unnamed.activeConditions? environment = (f.activeConditions? environment).map (List.map Condition.unnamed) := by
  have hsome : f.unnamed.hasEnvironments = f.hasEnvironments := congrArg not (SlugMap.isEmpty_map _ _)
  have hvalues : f.unnamed.conditions.values = f.conditions.values.map Condition.unnamed := SlugMap.values_map _ _
  rw [activeConditions?, activeConditions?, hsome, hvalues]
  cases f.hasEnvironments with
  | false => cases hf : f.enabled <;> simp [unnamed, hf]
  | true =>
      have he : f.unnamed.environments.get? environment = (f.environments.get? environment).map Environment.unnamed :=
        SlugMap.get?_map _ _ _
      rw [he]
      cases f.environments.get? environment with
      | none => rfl
      | some e => cases henabled : e.enabled <;> simp [Environment.unnamed, henabled, SlugMap.values_map]

namespace FeatureSet

theorem evaluate_unnamed (fs : FeatureSet) (environment : String) (c : Context) (r : Registry) :
    fs.unnamed.evaluate environment c r = fs.evaluate environment c r := by
  have hcandidates : Evaluation.candidates (slugify environment) (SlugMap.values fs.unnamed) =
      (Evaluation.candidates (slugify environment) (SlugMap.values fs)).map
        fun p => (p.1.unnamed, p.2.map Condition.unnamed) := by
    simp only [unnamed, SlugMap.values_map, Evaluation.candidates, List.filterMap_map, List.map_filterMap,
      Function.comp_def, Feature.activeConditions?_unnamed, Option.map_map]
  have hverdicts (cs : List (Feature × List Condition)) :
      Evaluation.verdicts r c (cs.map fun p => (p.1.unnamed, p.2.map Condition.unnamed)) = Evaluation.verdicts r c cs := by
    simp only [Evaluation.verdicts, List.map_map, Function.comp_def, Registry.consult_unnamed]
  have hadmitted (cs : List (Feature × List Condition)) (vs : List (Bool × List String)) :
      Evaluation.admitted (cs.map fun p => (p.1.unnamed, p.2.map Condition.unnamed)) vs = Evaluation.admitted cs vs := by
    rw [Evaluation.admitted, List.zip_map_left, List.filterMap_map]
    rfl
  rw [evaluate, evaluate, hcandidates, hverdicts, hadmitted]

/-- The rows of features that are kept under their slugs are all different, show everything that stands in the features,
and are enough to build them again, up to the names of environments and conditions. So features with the same rows
are evaluated alike. -/
theorem flatten_spec {fs : FeatureSet} (h : fs.Filed) :
    fs.flatten.Nodup ∧ fs.ShownIn fs.flatten ∧ ofRows fs.flatten = fs.unnamed ∧
      ∀ gs : FeatureSet, gs.Filed → gs.flatten = fs.flatten → ∀ (environment : String) (c : Context) (r : Registry),
        gs.evaluate environment c r = fs.evaluate environment c r := by
  refine ⟨nodup_flatten h, shownIn_flatten fs, ofRows_flatten h, ?_⟩
  intro gs hgs hrows environment c r
  rw [← evaluate_unnamed gs, ← ofRows_flatten hgs, hrows, ofRows_flatten h, evaluate_unnamed]

theorem flatten_spec_spelling :
    let login (environment condition : String) := ofNodes [.heading 2 "## Login", .heading 4 "#### Conditions",
      .list [.item "- [x] Staff"], .heading 3 environment, .list [.item "- [x] Enabled"], .heading 4 "#### Conditions",
      .list [.item condition], .heading 3 "### Staging", .heading 2 "## Search"]
    let fs := login "### Production" "- [x] Beta Users"
    let gs := login "### PRODUCTION" "- [x] beta_users"
    gs ≠ fs ∧ fs.flatten.length = 4 ∧ ofRows gs.flatten = fs.unnamed ∧
      ∀ c r, gs.evaluate "production" c r = fs.evaluate "production" c r := by
  intro login fs gs
  obtain ⟨hne, hfour, hrows⟩ : gs ≠ fs ∧ fs.flatten.length = 4 ∧ gs.flatten = fs.flatten := by decide +kernel
  obtain ⟨-, -, hbuilt, heval⟩ := flatten_spec (filed_ofNodes _ : fs.Filed)
  rw [← hrows] at hbuilt
  exact ⟨hne, hfour, hbuilt, heval gs (filed_ofNodes _) hrows "production"⟩

end FeatureSet

end FlagSheet
