import FlagSheet.Proofs.Engine.Staleness
import FlagSheet.Proofs.Engine.Together

namespace FlagSheet

namespace Engine

section

variable [Markdown] {e : Engine}

theorem getFeatures_of_not_caches (h : e.caches = false) {q : Query} {p : Project} {environment : String}
    (hresolve : e.config.resolve q = .ok (p, environment)) :
    e.getFeatures q = (answer p environment q.context (e.source.load p.location).1,
      { e with source := (e.source.load p.location).2 }) := by
  rw [getFeatures_of_resolve hresolve, cacheInUse_of_not_caches h, after_of_not_caches h]
  rfl

theorem caches_getFeatures (e : Engine) (q : Query) : (e.getFeatures q).2.caches = e.caches := by
  rw [caches, config_getFeatures, caches]

theorem getAllFeatures_of_not_caches (h : e.caches = false) (qs : List Query) :
    e.getAllFeatures qs = (answers e.config qs (Cache.loadAll (requests e.config qs) e.source).1,
      { e with source := (Cache.loadAll (requests e.config qs) e.source).2 }) := by
  rw [getAllFeatures_eq, cacheInUse_of_not_caches h, after_of_not_caches h]
  rfl

theorem getAllFeatures_cons (h : e.caches = false) (q : Query) (qs : List Query) :
    e.getAllFeatures (q :: qs) = ((e.getFeatures q).1 :: ((e.getFeatures q).2.getAllFeatures qs).1,
      ((e.getFeatures q).2.getAllFeatures qs).2) := by
  rw [getAllFeatures_of_not_caches h, getAllFeatures_of_not_caches ((caches_getFeatures e q).trans h)]
  cases hresolve : e.config.resolve q with
  | error fault =>
      rw [getFeatures_of_error hresolve, requests_of_error hresolve, answers_of_error hresolve]
  | ok about =>
      obtain ⟨p, environment⟩ := about
      rw [getFeatures_of_not_caches h hresolve, requests_of_resolve hresolve, Cache.loadAll]
      dsimp only
      rw [answers_of_resolve hresolve]
      rfl

theorem getAllFeatures_eq_run (h : e.caches = false) (qs : List Query) :
    (e.getAllFeatures qs).1.map Answer.seen = (e.run (qs.map .getFeatures)).1.map Outcome.seen ∧
      (e.getAllFeatures qs).2 = (e.run (qs.map .getFeatures)).2 := by
  induction qs generalizing e with
  | nil =>
      rw [getAllFeatures_of_not_caches h]
      exact ⟨rfl, rfl⟩
  | cons q qs ih =>
      obtain ⟨hhead, hlast⟩ := e.seen_run_cons q (qs.map .getFeatures)
      obtain ⟨hseen, hend⟩ := ih ((caches_getFeatures e q).trans h)
      rw [getAllFeatures_cons h, List.map_cons, List.map_cons, hhead, hlast, hseen, hend]
      exact ⟨rfl, rfl⟩

theorem fetched_loadAll (abouts : List (Project × String)) (s : Source) :
    (Cache.loadAll (abouts.map fun about => request about.1 about.2) s).2.fetched =
      s.fetched ++ abouts.map (·.1.location) := by
  induction abouts generalizing s with
  | nil => exact (List.append_nil _).symm
  | cons about abouts ih =>
      have hhead : ((request about.1 about.2).load s).2.fetched = s.fetched ++ [about.1.location] :=
        Source.fetched_load s about.1.location
      rw [List.map_cons, Cache.loadAll]
      dsimp only
      rw [ih, hhead, List.append_assoc]
      rfl

theorem document_of_answer {p : Project} {environment : String} {context : Context} {source : Source}
    {enabled : SlugSet} (h : (answer p environment context (source.load p.location).1).enabled = .ok enabled) :
    ∃ body, source.body? p.location = some body ∧
      enabled = ((FeatureSet.ofText body).evaluate environment context p.conditions).enabled := by
  cases hload : (source.load p.location).1 with
  | error failure => rw [hload] at h; cases h
  | ok features =>
      obtain ⟨body, hbody, hdocument⟩ := Source.body?_of_load_ok hload
      rw [hload, features_eq_of_document hdocument] at h
      exact ⟨body, hbody, (Except.ok.inj h).symm⟩

theorem step_getFeatures_of_not_caches (h : e.caches = false) {q : Query} {p : Project} {environment : String}
    (hresolve : e.config.resolve q = .ok (p, environment)) :
    (e.step (.getFeatures q)).1.fetched = [p.location] ∧
      (e.step (.getFeatures q)).1.reply =
        .features (answer p environment q.context (FeatureSet.ofFetched (e.source.fetch p.location).1)).enabled := by
  have hget := getFeatures_of_not_caches h hresolve
  refine ⟨?_, ?_⟩
  · change List.drop e.source.fetched.length (e.getFeatures q).2.source.fetched = _
    rw [hget, Source.fetched_load, List.drop_left]
  · change Reply.features (e.getFeatures q).1.enabled = _
    rw [hget, Source.answer_load]

variable {P : Provider}

def hosting (e : Engine) (P : Provider) (cache : P.State) : Engine P := ⟨e.config, cache, e.source⟩

omit [Markdown] in
theorem load_hosting (h : e.caches = false) (handed : P.State) (r : Request Source LoadError FeatureSet) :
    (e.hosting P handed).load r =
      ((r.load e.source).1, { e with source := (r.load e.source).2 }.hosting P handed) := by
  have hcaches : (e.hosting P handed).caches = false := h
  rw [load, hcaches]
  rfl

omit [Markdown] in
theorem loadAll_hosting (h : e.caches = false) (handed : P.State) (rs : List (Request Source LoadError FeatureSet)) :
    (e.hosting P handed).loadAll rs =
      ((Cache.loadAll rs e.source).1, { e with source := (Cache.loadAll rs e.source).2 }.hosting P handed) := by
  have hcaches : (e.hosting P handed).caches = false := h
  rw [loadAll, hcaches]
  rfl

theorem getFeatures_hosting (h : e.caches = false) (handed : P.State) (q : Query) :
    (e.hosting P handed).getFeatures q = ((e.getFeatures q).1, (e.getFeatures q).2.hosting P handed) := by
  have hconfig : (e.hosting P handed).config = e.config := rfl
  rw [getFeatures, hconfig]
  cases hresolve : e.config.resolve q with
  | error fault => rw [getFeatures_of_error hresolve]
  | ok about =>
      rw [getFeatures_of_not_caches h hresolve]
      simp only [load_hosting h]
      rfl

theorem getAllFeatures_hosting (h : e.caches = false) (handed : P.State) (qs : List Query) :
    (e.hosting P handed).getAllFeatures qs = ((e.getAllFeatures qs).1, (e.getAllFeatures qs).2.hosting P handed) := by
  rw [getAllFeatures_of_not_caches h, getAllFeatures, loadAll_hosting h]
  rfl

omit [Markdown] in
theorem deliver_hosting (h : e.config.secret = none) (handed : P.State) (body : Bytes) (signature : Option String) :
    (e.hosting P handed).deliver body signature =
      ((e.deliver body signature).1, (e.deliver body signature).2.hosting P handed) := by
  have hnone : (e.hosting P handed).config.secret = none := h
  rw [deliver_without_secret h, deliver_without_secret hnone]

omit [Markdown] in
theorem caches_eq_false (h : e.config.secret = none) : e.caches = false := by
  rw [caches, h]
  rfl

theorem act_hosting (h : e.config.secret = none) (handed : P.State) (s : Step) :
    (e.hosting P handed).act s = ((e.act s).1, (e.act s).2.hosting P handed) := by
  have hcaches := caches_eq_false h
  unfold act
  cases s with
  | set | remove | failNext => rfl
  | getFeatures q | isEnabled _ q => simp only [getFeatures_hosting hcaches]
  | deliver body signature => simp only [deliver_hosting h]
  | together qs => simp only [getAllFeatures_hosting hcaches]

theorem run_hosting (h : e.config.secret = none) (handed : P.State) (steps : List Step) :
    (e.hosting P handed).run steps =
      ((e.run steps).1.map fun o => { o with cached := P.size handed }, (e.run steps).2.hosting P handed) := by
  induction steps generalizing e with
  | nil => rfl
  | cons s steps ih =>
      have hstep : (e.hosting P handed).step s =
          ({ (e.step s).1 with cached := P.size handed }, (e.step s).2.hosting P handed) := by
        simp only [step, act_hosting h]
        rfl
      have hafter : (e.step s).2.config.secret = none := (congrArg Config.secret (config_act e s)).trans h
      simp only [run, hstep, ih hafter, List.map_cons]

theorem cache_run (h : e.config.secret = none) (steps : List Step) : (e.run steps).2.cache = e.cache :=
  congrArg (fun r => r.2.cache) (run_hosting (P := Cache.provider) h e.cache steps)

/-- Where the secret has been left out or is blank, whatever cache an engine has been handed stays as it is, and what it
would do with calls makes no difference to any run. Each query that is about some project fetches its document then and
there, once, and is answered from what comes of it: a successful answer evaluates the body that the source holds just
then. That queries are asked at the same time changes nothing, and a delivery leaves no trace. -/
theorem run_uncached {s : Settings} (hsecret : ∀ secret ∈ s.secret, secret.isBlank = true) {c : Config}
    (hbuild : s.build = .ok c) (P : Provider) (handed : P.State) (cache : Cache FeatureSet) (source : Source)
    (steps : List Step) :
    let start : Engine := ⟨c, cache, source⟩
    let e := (start.run steps).2
    e.cache = cache ∧
    (start.hosting P handed).run steps =
      ((start.run steps).1.map fun o => { o with cached := P.size handed }, e.hosting P handed) ∧
    (∀ q p environment, c.resolve q = .ok (p, environment) →
      let o := (e.step (.getFeatures q)).1
      let answered := (answer p environment q.context (FeatureSet.ofFetched (e.source.fetch p.location).1)).enabled
      o.fetched = [p.location] ∧
      o.reply = .features answered ∧
      (∀ enabled, answered = .ok enabled → ∃ body, e.source.body? p.location = some body ∧
        enabled = ((FeatureSet.ofText body).evaluate environment q.context p.conditions).enabled) ∧
      ∀ names, (e.step (.isEnabled names q)).1 = { o with reply := .allowed (allowed names answered) }) ∧
    (∀ qs,
      let each := e.run (qs.map .getFeatures)
      (e.step (.together qs)).1.fetched = (resolved c qs).map (·.1.location) ∧
      (∃ answered, (e.step (.together qs)).1.reply = .together answered ∧
        each.1.map (·.reply) = answered.map .features) ∧
      (e.step (.together qs)).2 = each.2) ∧
    ∀ body signature later,
      e.run (.deliver body signature :: later) =
        (⟨.response .disabled, [], [], cache.size⟩ :: (e.run later).1, (e.run later).2) := by
  intro start e
  have hnone : start.config.secret = none := by
    change c.secret = none
    rw [Settings.secret_of_built hbuild]
    cases hs : s.secret with
    | none => rfl
    | some secret => simp [hsecret secret hs]
  have hconfig : e.config = c := config_run start steps
  have hnone' : e.config.secret = none := by rw [hconfig]; exact hnone
  have hcaches := caches_eq_false hnone'
  have hcache : e.cache = cache := cache_run hnone steps
  refine ⟨hcache, run_hosting hnone handed steps, ?_, ?_, ?_⟩
  · intro q p environment hresolve o answered
    obtain ⟨hfetched, hreply⟩ := step_getFeatures_of_not_caches hcaches (hconfig ▸ hresolve)
    refine ⟨hfetched, hreply, fun enabled henabled => ?_, fun names => ?_⟩
    · exact document_of_answer henabled
    · have hallowed : (e.step (.isEnabled names q)).1 =
          { o with reply := .allowed (allowed names (e.getFeatures q).1.enabled) } := rfl
      have hanswered : (e.getFeatures q).1.enabled = answered := Reply.features.inj hreply
      rw [hallowed, hanswered]
  · intro qs each
    obtain ⟨hseen, hend⟩ := getAllFeatures_eq_run hcaches qs
    refine ⟨?_, ⟨_, rfl, ?_⟩, hend⟩
    · change List.drop e.source.fetched.length (e.getAllFeatures qs).2.source.fetched = _
      rw [getAllFeatures_of_not_caches hcaches, requests_eq, fetched_loadAll, List.drop_left, hconfig]
    · have hreplies := congrArg (List.map Prod.fst) hseen
      rw [List.map_map, List.map_map] at hreplies
      rw [List.map_map]
      exact hreplies.symm
  · intro body signature later
    have hstep : e.step (.deliver body signature) = (⟨.response .disabled, [], [], cache.size⟩, e) := by
      simp only [step, act, deliver_without_secret hnone', List.drop_length, hcache]
    rw [run, hstep]

end

/-- A cache that counts its calls, and answers each of them without a load. -/
def counting : Provider where
  State := Nat
  get n _ source := (.ok (.ofText ""), n + 1, source)
  getAll n calls source := (calls.map fun _ => .ok (.ofText ""), n + calls.length, source)
  invalidate n _ := n + 1
  size n := n

theorem run_uncached_counting :
    let s : Settings := ⟨[solo], some ⟨" \t"⟩, some "production", false⟩
    let c : Config := ⟨[solo], none, some "production", false⟩
    let start : Engine := ⟨c, .memory ∅, .empty⟩
    let e := (start.run removal).2
    s.build = .ok c ∧ ((start.hosting counting (0 : Nat)).run removal).2.cache = (0 : Nat) ∧
      e.cache = .memory ∅ ∧ (e.step (.getFeatures ∅)).1.fetched = [solo.location] := by
  intro s c start e
  have hblank : ∀ secret ∈ s.secret, secret.isBlank = true := by
    rintro _ ⟨⟩
    decide +kernel
  have hbuild : s.build = .ok c := by rfl
  obtain ⟨hcache, hhosting, hqueries, -⟩ := run_uncached hblank hbuild counting (0 : Nat) (.memory ∅) .empty removal
  refine ⟨hbuild, ?_, hcache, ?_⟩
  · rw [hhosting]
    rfl
  · exact (hqueries ∅ solo "production" rfl).1

end Engine

end FlagSheet
