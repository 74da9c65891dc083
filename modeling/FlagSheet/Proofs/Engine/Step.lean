import FlagSheet.Engine.Run
import FlagSheet.Proofs.Cache.ByProject

namespace FlagSheet

namespace Source

variable [Markdown]

theorem body?_load (s : Source) (l : Location) : (s.load l).2.body? = s.body? := by
  unfold load fetch
  cases s.failures <;> rfl

theorem fetched_load (s : Source) (l : Location) : (s.load l).2.fetched = s.fetched ++ [l] := by
  unfold load fetch
  cases s.failures <;> rfl

theorem answer_load (s : Source) (l : Location) : (s.load l).1 = FeatureSet.ofFetched (s.fetch l).1 := rfl

theorem load_of_failures_nil {s : Source} (h : s.failures = []) (l : Location) :
    (s.load l).1 = FeatureSet.ofFetched (.ok (s.body? l)) ∧ (s.load l).2.failures = [] := by
  unfold load fetch
  rw [h]
  exact ⟨rfl, rfl⟩

theorem body?_of_load_ok {s : Source} {l : Location} {features : FeatureSet} (h : (s.load l).1 = .ok features) :
    ∃ body, s.body? l = some body ∧ FeatureSet.ofDocument? (some body) = some features := by
  rw [answer_load] at h
  unfold fetch at h
  cases hf : s.failures with
  | cons fault faults => rw [hf] at h; cases h
  | nil =>
      rw [hf] at h
      dsimp only [FeatureSet.ofFetched] at h
      cases hb : s.body? l with
      | none => rw [hb] at h; cases h
      | some body =>
          rw [hb] at h
          refine ⟨body, rfl, ?_⟩
          cases hd : FeatureSet.ofDocument? (some body) with
          | none => rw [hd] at h; cases h
          | some found =>
              rw [hd] at h
              exact congrArg some (Except.ok.inj h)

end Source

namespace Step

def Single : Step → Prop
  | together _ => False
  | _ => True

def edited? : Step → Option Location
  | set l _ => some l
  | remove l => some l
  | _ => none

def edit (bodies : Location → Option String) : Step → Location → Option String
  | set l body, k => if k = l then some body else bodies k
  | remove l, k => if k = l then none else bodies k
  | _, k => bodies k

theorem edit_of_ne {s : Step} {l : Location} (h : s.edited? ≠ some l) (bodies : Location → Option String) :
    s.edit bodies l = bodies l := by
  cases s with
  | set k body | remove k =>
      have hk : l ≠ k := fun hlk => h (congrArg some hlk.symm)
      exact if_neg hk
  | failNext | getFeatures | isEnabled | deliver | together => rfl

end Step

namespace Engine

def cacheInUse (e : Engine) : Cache FeatureSet := if e.caches then e.cache else .off

def after (e : Engine) (cache : Cache FeatureSet) (source : Source) : Engine :=
  { e with cache := if e.caches then cache else e.cache, source }

section Caches

variable {e : Engine}

theorem cacheInUse_of_caches (h : e.caches = true) : e.cacheInUse = e.cache := by rw [cacheInUse, if_pos h]

theorem cacheInUse_of_not_caches (h : e.caches = false) : e.cacheInUse = .off := by
  rw [cacheInUse, h]
  rfl

theorem after_of_caches (h : e.caches = true) (cache : Cache FeatureSet) (source : Source) :
    e.after cache source = { e with cache, source } := by rw [after, if_pos h]

theorem after_of_not_caches (h : e.caches = false) (cache : Cache FeatureSet) (source : Source) :
    e.after cache source = { e with source } := by
  rw [after, h]
  rfl

end Caches

theorem load_eq (e : Engine) (r : Request Source LoadError FeatureSet) :
    e.load r = ((e.cacheInUse.get r e.source).1,
      e.after (e.cacheInUse.get r e.source).2.1 (e.cacheInUse.get r e.source).2.2) := by
  cases hcaches : e.caches with
  | true =>
      rw [load, if_pos hcaches, cacheInUse_of_caches hcaches, after_of_caches hcaches]
  | false =>
      rw [load, hcaches, cacheInUse_of_not_caches hcaches, after_of_not_caches hcaches]
      rfl

theorem loadAll_eq (e : Engine) (rs : List (Request Source LoadError FeatureSet)) :
    e.loadAll rs = ((e.cacheInUse.getAll rs e.source).1,
      e.after (e.cacheInUse.getAll rs e.source).2.1 (e.cacheInUse.getAll rs e.source).2.2) := by
  cases hcaches : e.caches with
  | true =>
      rw [loadAll, if_pos hcaches, cacheInUse_of_caches hcaches, after_of_caches hcaches]
  | false =>
      rw [loadAll, hcaches, cacheInUse_of_not_caches hcaches, after_of_not_caches hcaches]
      rfl

theorem announce_eq (e : Engine) (event : IssueEvent) :
    e.announce event = match e.projectAt? event.repository event.issue with
      | some p => e.after (e.cacheInUse.invalidate p.key) e.source
      | none => e := by
  rw [announce]
  cases e.projectAt? event.repository event.issue with
  | none => rfl
  | some p =>
      dsimp only
      cases hcaches : e.caches with
      | true => rw [if_pos rfl, cacheInUse_of_caches hcaches, after_of_caches hcaches]
      | false => rw [if_neg Bool.false_ne_true, after_of_not_caches hcaches]

def held? (e : Engine) (key : CacheKey) : Option FeatureSet := e.cacheInUse.held? key

/-- The project whose features a step drops. -/
def dropped? (e : Engine) : Step → Option Project
  | .deliver body signature => do
    let secret ← e.config.secret
    let event ← (Webhook.receive secret.expose body signature).toOption
    e.projectAt? event.repository event.issue
  | _ => none

theorem cacheInUse_after (e : Engine) (c : Cache FeatureSet) (s : Source) :
    (e.after c s).cacheInUse = if e.caches then c else .off := by
  unfold cacheInUse after caches
  dsimp only
  split <;> rfl

theorem after_cacheInUse (e : Engine) : e.after e.cacheInUse e.source = e := by
  unfold after cacheInUse
  cases e
  dsimp only
  split <;> rfl

theorem cacheInUse_of_memory {e : Engine} (hcaches : e.caches = true) {m : Memory FeatureSet} (hm : e.cache = .memory m) :
    e.cacheInUse = .memory m := (cacheInUse_of_caches hcaches).trans hm

theorem byProject_ofConfig (config : Config) (source : Source) :
    (ofConfig config source).cacheInUse.ByProject := by
  unfold cacheInUse
  split
  · exact .empty
  · exact .off

theorem held?_ofConfig (config : Config) (source : Source) (key : CacheKey) :
    (ofConfig config source).held? key = none := by
  unfold held? cacheInUse
  split <;> rfl

section Query

variable [Markdown] {e : Engine} {q : Query} {p : Project} {environment : String}

theorem getFeatures_of_resolve (h : e.config.resolve q = .ok (p, environment)) :
    e.getFeatures q =
      (answer p environment q.context (e.cacheInUse.get (request p environment) e.source).1,
        e.after (e.cacheInUse.get (request p environment) e.source).2.1
          (e.cacheInUse.get (request p environment) e.source).2.2) := by
  unfold getFeatures
  rw [h]
  dsimp only
  rw [load_eq]

theorem getFeatures_of_error {fault : QueryError} (h : e.config.resolve q = .error fault) :
    e.getFeatures q = (⟨.error fault, []⟩, e) := by
  unfold getFeatures
  rw [h]

theorem getFeatures_of_held (h : e.config.resolve q = .ok (p, environment)) {features : FeatureSet}
    (hheld : e.held? ⟨p.key, environment⟩ = some features) :
    e.getFeatures q = (answer p environment q.context (.ok features), e) := by
  have hget := Cache.get_of_held (r := request p environment) hheld e.source
  rw [getFeatures_of_resolve h, hget, after_cacheInUse]

theorem getFeatures_of_not_held (h : e.config.resolve q = .ok (p, environment))
    (hheld : e.held? ⟨p.key, environment⟩ = none) :
    (e.getFeatures q).1 = answer p environment q.context (e.source.load p.location).1 ∧
      (e.getFeatures q).2.source = (e.source.load p.location).2 := by
  obtain ⟨hanswer, hsource⟩ := Cache.get_of_not_held (r := request p environment) hheld e.source
  rw [getFeatures_of_resolve h]
  exact ⟨congrArg (answer p environment q.context) hanswer, hsource⟩

theorem held?_getFeatures_of_memory (hcaches : e.caches = true) {m : Memory FeatureSet} (hm : e.cache = .memory m)
    (h : e.config.resolve q = .ok (p, environment)) :
    (e.getFeatures q).2.held? ⟨p.key, environment⟩ = (m.get (request p environment) e.source).1.toOption := by
  rw [getFeatures_of_resolve h, held?, cacheInUse_after, if_pos hcaches, cacheInUse_of_memory hcaches hm]
  exact (m.held?_get (request p environment) e.source (request p environment).key).trans (if_pos rfl)

theorem body?_getFeatures (e : Engine) (q : Query) : (e.getFeatures q).2.source.body? = e.source.body? := by
  cases h : e.config.resolve q with
  | error fault => rw [getFeatures_of_error h]
  | ok found =>
      obtain ⟨p, environment⟩ := found
      cases hheld : e.held? ⟨p.key, environment⟩ with
      | some features => rw [getFeatures_of_held h hheld]
      | none => rw [(getFeatures_of_not_held h hheld).2, Source.body?_load]

theorem held?_getFeatures {key : CacheKey} {features : FeatureSet}
    (hheld : (e.getFeatures q).2.held? key = some features) :
    e.held? key = some features ∨ ∃ p environment, e.config.resolve q = .ok (p, environment) ∧
      key = ⟨p.key, environment⟩ ∧ (e.source.load p.location).1 = .ok features := by
  cases h : e.config.resolve q with
  | error fault =>
      rw [getFeatures_of_error h] at hheld
      exact .inl hheld
  | ok found =>
      obtain ⟨p, environment⟩ := found
      cases hbefore : e.held? ⟨p.key, environment⟩ with
      | some found =>
          rw [getFeatures_of_held h hbefore] at hheld
          exact .inl hheld
      | none =>
          rw [getFeatures_of_resolve h, held?, cacheInUse_after] at hheld
          by_cases hc : e.caches = true
          · rw [if_pos hc] at hheld
            by_cases hkey : key = ⟨p.key, environment⟩
            · subst hkey
              have hanswer := Cache.answer_of_held?_get (r := request p environment) hheld
              rw [(Cache.get_of_not_held (r := request p environment) hbefore e.source).1] at hanswer
              exact .inr ⟨p, environment, rfl, rfl, hanswer⟩
            · rw [Cache.held?_get_of_ne _ (request p environment) _ hkey] at hheld
              exact .inl hheld
          · rw [if_neg hc] at hheld
            cases hheld

theorem byProject_getFeatures (hc : e.cacheInUse.ByProject) (q : Query) :
    (e.getFeatures q).2.cacheInUse.ByProject := by
  cases h : e.config.resolve q with
  | error fault => rw [getFeatures_of_error h]; exact hc
  | ok found =>
      obtain ⟨p, environment⟩ := found
      rw [getFeatures_of_resolve h, cacheInUse_after]
      split
      · exact hc.get rfl e.source
      · exact .off

theorem tags_of_mem_requests {config : Config} {qs : List Query} :
    ∀ r ∈ requests config qs, r.tags = [r.key.project] := by
  intro r hr
  obtain ⟨q, -, hq⟩ := List.mem_filterMap.1 hr
  obtain ⟨found, -, rfl⟩ := Option.map_eq_some_iff.1 hq
  rfl

theorem getAllFeatures_eq (e : Engine) (qs : List Query) :
    e.getAllFeatures qs =
      (answers e.config qs (e.cacheInUse.getAll (requests e.config qs) e.source).1,
        e.after (e.cacheInUse.getAll (requests e.config qs) e.source).2.1
          (e.cacheInUse.getAll (requests e.config qs) e.source).2.2) := by
  rw [getAllFeatures, loadAll_eq]

theorem byProject_getAllFeatures (hc : e.cacheInUse.ByProject) (qs : List Query) :
    (e.getAllFeatures qs).2.cacheInUse.ByProject := by
  rw [getAllFeatures_eq, cacheInUse_after]
  split
  · exact hc.getAll tags_of_mem_requests e.source
  · exact .off

theorem failures_getFeatures (hf : e.source.failures = []) (q : Query) :
    (e.getFeatures q).2.source.failures = [] := by
  cases h : e.config.resolve q with
  | error fault => rw [getFeatures_of_error h]; exact hf
  | ok found =>
      obtain ⟨p, environment⟩ := found
      cases hheld : e.held? ⟨p.key, environment⟩ with
      | some features => rw [getFeatures_of_held h hheld]; exact hf
      | none =>
          rw [(getFeatures_of_not_held h hheld).2]
          exact (Source.load_of_failures_nil hf p.location).2

theorem config_getFeatures (e : Engine) (q : Query) : (e.getFeatures q).2.config = e.config := by
  cases h : e.config.resolve q with
  | error fault => rw [getFeatures_of_error h]
  | ok found => rw [getFeatures_of_resolve h]; rfl

end Query

section Act

variable [Markdown] {e : Engine} {s : Step}

theorem act_deliver (e : Engine) (body : Bytes) (signature : Option String) :
    (e.act (.deliver body signature)).2 =
      match e.dropped? (.deliver body signature) with
      | some p => e.after (e.cacheInUse.invalidate p.key) e.source
      | none => e := by
  unfold act deliver dropped?
  cases hs : e.config.secret with
  | none => rfl
  | some secret =>
      dsimp only [Option.bind_eq_bind, Option.bind_some]
      cases Webhook.receive secret.expose body signature with
      | error refusal => rfl
      | ok event => exact announce_eq e event

theorem config_act (e : Engine) (s : Step) : (e.act s).2.config = e.config := by
  cases s with
  | set | remove | failNext => rfl
  | together qs => exact congrArg (fun r => r.2.config) (getAllFeatures_eq e qs)
  | getFeatures q | isEnabled _ q => exact config_getFeatures e q
  | deliver body signature =>
      rw [act_deliver]
      split <;> rfl

theorem body?_act_deliver (e : Engine) (body : Bytes) (signature : Option String) :
    (e.act (.deliver body signature)).2.source.body? = e.source.body? := by
  rw [act_deliver]
  split <;> rfl

theorem body?_act (hs : s.Single) : (e.act s).2.source.body? = s.edit e.source.body? := by
  cases s with
  | set l body => funext k; exact Source.body?_set e.source l k body
  | remove l => funext k; exact Source.body?_remove e.source l k
  | failNext => rfl
  | getFeatures q | isEnabled _ q => exact body?_getFeatures e q
  | deliver body signature => exact body?_act_deliver e body signature
  | together => cases hs

theorem byProject_act (hc : e.cacheInUse.ByProject) : (e.act s).2.cacheInUse.ByProject := by
  cases s with
  | set | remove | failNext => exact hc
  | getFeatures q | isEnabled _ q => exact byProject_getFeatures hc q
  | deliver body signature =>
      rw [act_deliver]
      split
      · rw [cacheInUse_after]
        split
        · exact hc.invalidate _
        · exact .off
      · exact hc
  | together qs => exact byProject_getAllFeatures hc qs

theorem held?_act_deliver (hc : e.cacheInUse.ByProject) (body : Bytes) (signature : Option String)
    (key : CacheKey) :
    (e.act (.deliver body signature)).2.held? key =
      if ∃ p, e.dropped? (.deliver body signature) = some p ∧ p.key = key.project then none else e.held? key := by
  rw [act_deliver]
  cases hd : e.dropped? (.deliver body signature) with
  | none => simp
  | some p =>
      simp only [Option.some.injEq, exists_eq_left']
      rw [held?, cacheInUse_after]
      by_cases hcaches : e.caches = true
      · rw [if_pos hcaches, Cache.held?_invalidate hc]
        simp only [eq_comm]
        rfl
      · have hoff : e.held? key = none := by
          rw [held?, cacheInUse_of_not_caches (Bool.eq_false_iff.2 hcaches)]
          rfl
        rw [if_neg hcaches, hoff, ite_self]
        rfl

theorem held?_deliver (hc : e.cacheInUse.ByProject) {body : Bytes} {signature : Option String} {key : CacheKey}
    {features : FeatureSet} (h : (e.act (.deliver body signature)).2.held? key = some features) :
    e.held? key = some features ∧ ∀ p, e.dropped? (.deliver body signature) = some p → p.key ≠ key.project := by
  rw [held?_act_deliver hc] at h
  split at h
  · cases h
  · next hdropped => exact ⟨h, fun p hp hkey => hdropped ⟨p, hp, hkey⟩⟩

/-- What is held behind a step was held before it and not dropped, or has just been loaded for a query. -/
theorem held?_act (hs : s.Single) (hc : e.cacheInUse.ByProject) {key : CacheKey} {features : FeatureSet}
    (h : (e.act s).2.held? key = some features) :
    (e.held? key = some features ∧ ∀ p, e.dropped? s = some p → p.key ≠ key.project) ∨
      ∃ q p environment, e.config.resolve q = .ok (p, environment) ∧ key = ⟨p.key, environment⟩ ∧
        s.edited? = none ∧ e.dropped? s = none ∧ (e.source.load p.location).1 = .ok features := by
  cases s with
  | set | remove | failNext => exact .inl ⟨h, fun p hp => nomatch hp⟩
  | getFeatures q | isEnabled _ q =>
      obtain hheld | ⟨p, environment, hresolve, hkey, hload⟩ := held?_getFeatures (q := q) h
      · exact .inl ⟨hheld, fun p hp => nomatch hp⟩
      · exact .inr ⟨q, p, environment, hresolve, hkey, rfl, rfl, hload⟩
  | deliver body signature => exact .inl (held?_deliver hc h)
  | together => cases hs

end Act

variable [Markdown]

theorem run_append (e : Engine) (xs ys : List Step) :
    e.run (xs ++ ys) = ((e.run xs).1 ++ ((e.run xs).2.run ys).1, ((e.run xs).2.run ys).2) := by
  induction xs generalizing e with
  | nil => rfl
  | cons x xs ih => simp only [List.cons_append, run, ih]

theorem length_outcomes (e : Engine) (steps : List Step) : (e.run steps).1.length = steps.length := by
  induction steps generalizing e with
  | nil => rfl
  | cons s steps ih => simp only [run, List.length_cons, ih]

theorem run_snoc (e : Engine) (steps : List Step) (s : Step) :
    (e.run (steps ++ [s])).2 = ((e.run steps).2.act s).2 := by
  rw [run_append]
  rfl

theorem outcome_of_run (e : Engine) (before after : List Step) (s : Step) :
    (e.run (before ++ s :: after)).1[before.length]? = some ((e.run before).2.step s).1 := by
  rw [run_append, List.getElem?_append_right (Nat.le_of_eq (length_outcomes e before)), length_outcomes,
    Nat.sub_self]
  rfl

theorem reply_of_run (e : Engine) (steps : List Step) (s : Step) :
    ((e.run (steps ++ [s])).1.map (·.reply))[steps.length]? = some ((e.run steps).2.act s).1.1 := by
  rw [List.getElem?_map, outcome_of_run]
  rfl

theorem config_run (e : Engine) (steps : List Step) : (e.run steps).2.config = e.config := by
  induction steps generalizing e with
  | nil => rfl
  | cons s steps ih => exact (ih _).trans (config_act e s)

theorem byProject_run {e : Engine} (hc : e.cacheInUse.ByProject) (steps : List Step) :
    (e.run steps).2.cacheInUse.ByProject := by
  induction steps generalizing e with
  | nil => exact hc
  | cons s steps ih => exact ih (byProject_act hc)

end Engine

end FlagSheet
