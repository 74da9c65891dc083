import FlagSheet.Proofs.Cache.Sharing
import FlagSheet.Proofs.Cache.Simulation
import FlagSheet.Proofs.Config
import FlagSheet.Proofs.Engine.Delivery

namespace FlagSheet

def Request.logged {σ ε α β : Type} (r : Request σ ε α) (label : β) : Request (σ × List β) ε α :=
  ⟨r.key, r.tags, fun s => ((r.load s.1).1, (r.load s.1).2, s.2 ++ [label])⟩

namespace Ask

variable {ε α : Type} {asks : List (Ask ε α)} {key : CacheKey}

theorem length_callsFor (key : CacheKey) (asks : List (Ask ε α)) (n : Nat) :
    (callsFor key asks n).length = (asks.map (·.key)).count key := by
  induction asks generalizing n with
  | nil => rfl
  | cons a asks ih =>
      rw [callsFor_cons, List.map_cons, List.count_cons, ← ih (n + 1)]
      by_cases hk : a.key = key <;> simp [hk]

theorem mem_of_mem_callsFor {n : Nat} {call : Ask ε α × Nat} (h : call ∈ callsFor key asks n) :
    call.1 ∈ asks ∧ call.1.key = key := by
  obtain ⟨hmem, hkey⟩ := List.mem_filter.1 h
  refine ⟨?_, by simpa using hkey⟩
  rw [← List.zipIdx_map_fst n asks]
  exact List.mem_map_of_mem hmem

theorem length_serve_of_ok {v : α} (h : ∀ a ∈ asks, a.key = key → a.outcome = .ok v)
    (hasked : (asks.map (·.key)).count key ≠ 0) (n : Nat) : (serve none (callsFor key asks n)).2.length = 1 := by
  cases hcalls : callsFor key asks n with
  | nil =>
      rw [← length_callsFor key asks n, hcalls] at hasked
      exact absurd rfl hasked
  | cons call later =>
      obtain ⟨hmem, hkey⟩ := mem_of_mem_callsFor (n := n) (hcalls ▸ List.mem_cons_self)
      simp [serve, h call.1 hmem hkey, Except.toOption, serve_some]

theorem length_serve_of_fails (h : ∀ a ∈ asks, a.key = key → a.Fails) (n : Nat) :
    (serve none (callsFor key asks n)).2.length = (asks.map (·.key)).count key := by
  have hfails : ∀ call ∈ callsFor key asks n, call.1.Fails := by
    intro call hcall
    obtain ⟨hmem, hkey⟩ := mem_of_mem_callsFor hcall
    exact h call.1 hmem hkey
  have hserve := serve_append hfails []
  rw [List.append_nil] at hserve
  rw [hserve, ← length_callsFor key asks n]
  simp [serve]

end Ask

namespace Source

variable [Markdown]

def Steady (bodies : Location → Option String) (s : Source) : Prop := s.failures = [] ∧ s.body? = bodies

theorem Steady.load {bodies : Location → Option String} {s : Source} (h : Steady bodies s) (l : Location) :
    (s.load l).1 = FeatureSet.ofFetched (.ok (bodies l)) ∧ Steady bodies (s.load l).2 := by
  obtain ⟨hanswer, hfailures⟩ := Source.load_of_failures_nil h.1 l
  exact ⟨h.2 ▸ hanswer, hfailures, (Source.body?_load s l).trans h.2⟩

def Readable (s : Source) (l : Location) : Prop := ∃ text, s.body? l = some text ∧ Text.allBlank text = false

theorem ofFetched_of_readable {s : Source} {l : Location} (h : s.Readable l) :
    ∃ features, FeatureSet.ofFetched (.ok (s.body? l)) = .ok features := by
  obtain ⟨text, htext, hblank⟩ := h
  refine ⟨.ofText text, ?_⟩
  rw [htext, FeatureSet.ofFetched, FeatureSet.ofDocument?, hblank]
  rfl

theorem ofFetched_of_not_readable {s : Source} {l : Location} (h : ¬s.Readable l) :
    FeatureSet.ofFetched (.ok (s.body? l)) = .error .noDocument := by
  cases htext : s.body? l with
  | none => rfl
  | some text =>
      have hblank : Text.allBlank text = true := by
        rw [← Bool.not_eq_false]
        exact fun hblank => h ⟨text, htext, hblank⟩
      rw [FeatureSet.ofFetched, FeatureSet.ofDocument?, hblank]
      rfl

end Source

def Answer.seen (a : Answer) : Reply × List String := (.features a.enabled, a.calls)

def Outcome.seen (o : Outcome) : Reply × List String := (o.reply, o.calls)

namespace Engine

section

variable [Markdown]

def resolved (config : Config) (qs : List Query) : List (Project × String) :=
  qs.filterMap fun q => (config.resolve q).toOption

def cacheKey (about : Project × String) : CacheKey := ⟨about.1.key, about.2⟩

/-- What documents are fetched for when these queries are asked at the same time, in the order of the fetches. -/
def fetches (e : Engine) (qs : List Query) : List (Project × String) :=
  (e.cacheInUse.getAll ((resolved e.config qs).map fun about => (request about.1 about.2).logged about)
    (e.source, [])).2.2.2

theorem requests_eq (config : Config) (qs : List Query) :
    requests config qs = (resolved config qs).map fun about => request about.1 about.2 := by
  rw [requests, resolved, List.map_filterMap]

omit [Markdown] in
theorem mem_resolved {config : Config} {qs : List Query} {about : Project × String} :
    about ∈ resolved config qs ↔ ∃ q ∈ qs, config.resolve q = .ok about := by
  rw [resolved, List.mem_filterMap]
  refine exists_congr fun q => and_congr_right fun _ => ?_
  cases config.resolve q <;> simp [Except.toOption]

/-- The call for a query, with what its load comes to while the bodies are these. -/
def ask (bodies : Location → Option String) (about : Project × String) : Ask LoadError FeatureSet :=
  ⟨cacheKey about, [about.1.key], FeatureSet.ofFetched (.ok (bodies about.1.location))⟩

def Recorded (before : List Location) (s : Source) (t : Source × List (Project × String)) : Prop :=
  t.1 = s ∧ s.fetched = before ++ t.2.map (·.1.location)

theorem recorded_requests (before : List Location) (abouts : List (Project × String)) :
    List.Forall₂ (Request.Alike (Recorded before)) (abouts.map fun about => request about.1 about.2)
      (abouts.map fun about => (request about.1 about.2).logged about) := by
  rw [List.forall₂_map_left_iff, List.forall₂_map_right_iff, List.forall₂_same]
  intro about _
  refine ⟨rfl, rfl, ?_⟩
  rintro _ ⟨s, log⟩ ⟨rfl, hfetched⟩
  refine ⟨rfl, rfl, ?_⟩
  change (s.load about.1.location).2.fetched = before ++ (log ++ [about]).map (·.1.location)
  rw [Source.fetched_load, hfetched, List.map_append, List.append_assoc]
  rfl

/-- The log and the ledger tell of the same loads. -/
structure Entered (bodies : Location → Option String) (abouts : List (Project × String))
    (t : Source × List (Project × String)) (l : Ledger) : Prop where
  steady : Source.Steady bodies t.1
  mem : ∀ about ∈ t.2, about ∈ abouts
  count : ∀ key, (t.2.map cacheKey).count key = (l.numbers key).length

theorem entered_logged {bodies : Location → Option String} {abouts : List (Project × String)}
    {about : Project × String} (habout : about ∈ abouts) (n : Nat) :
    ((request about.1 about.2).logged about).Alike (Entered bodies abouts) ((ask bodies about).request n) := by
  refine ⟨rfl, rfl, ?_⟩
  intro t l h
  obtain ⟨hanswer, hsteady⟩ := h.steady.load about.1.location
  refine ⟨hanswer, hsteady, ?_, ?_⟩
  · intro other hother
    rcases List.mem_append.1 hother with hother | hother
    · exact h.mem other hother
    · rwa [List.mem_singleton.1 hother]
  · intro key
    change ((t.2 ++ [about]).map cacheKey).count key = ((l.note (cacheKey about) n).numbers key).length
    rw [List.map_append, List.count_append, h.count]
    by_cases hk : key = cacheKey about
    · simp [Ledger.note, hk]
    · simp [Ledger.note, hk, Ne.symm hk]

theorem entered_requests (bodies : Location → Option String) {abouts others : List (Project × String)}
    (h : ∀ about ∈ others, about ∈ abouts) (n : Nat) :
    List.Forall₂ (Request.Alike (Entered bodies abouts))
      (others.map fun about => (request about.1 about.2).logged about) (Ask.requests (others.map (ask bodies)) n) := by
  induction others generalizing n with
  | nil => exact .nil
  | cons about others ih =>
      rw [List.forall_mem_cons] at h
      exact .cons (entered_logged h.1 n) (ih h.2 (n + 1))

theorem steady_requests (bodies : Location → Option String) (abouts : List (Project × String)) (n : Nat) :
    List.Forall₂ (Request.Alike fun s (_ : Ledger) => Source.Steady bodies s)
      (abouts.map fun about => request about.1 about.2) (Ask.requests (abouts.map (ask bodies)) n) := by
  induction abouts generalizing n with
  | nil => exact .nil
  | cons about abouts ih => exact .cons ⟨rfl, rfl, fun s _ h => h.load about.1.location⟩ (ih (n + 1))

theorem requests_of_error {config : Config} {q : Query} {fault : QueryError} (h : config.resolve q = .error fault)
    (qs : List Query) : requests config (q :: qs) = requests config qs :=
  List.filterMap_cons_none (by rw [h]; rfl)

theorem requests_of_resolve {config : Config} {q : Query} {p : Project} {environment : String}
    (h : config.resolve q = .ok (p, environment)) (qs : List Query) :
    requests config (q :: qs) = request p environment :: requests config qs :=
  List.filterMap_cons_some (by rw [h]; rfl)

omit [Markdown] in
theorem answers_of_error {config : Config} {q : Query} {fault : QueryError} (h : config.resolve q = .error fault)
    (qs : List Query) (loaded : List (Except LoadError FeatureSet)) :
    answers config (q :: qs) loaded = ⟨.error fault, []⟩ :: answers config qs loaded := by
  rw [answers.eq_def]
  dsimp only
  rw [h]

omit [Markdown] in
theorem answers_of_resolve {config : Config} {q : Query} {p : Project} {environment : String}
    (h : config.resolve q = .ok (p, environment)) (qs : List Query) (features : Except LoadError FeatureSet)
    (loaded : List (Except LoadError FeatureSet)) :
    answers config (q :: qs) (features :: loaded) =
      answer p environment q.context features :: answers config qs loaded := by
  rw [answers.eq_def]
  dsimp only
  rw [h]

theorem seen_run_cons (e : Engine) (q : Query) (steps : List Step) :
    (e.run (.getFeatures q :: steps)).1.map Outcome.seen =
        (e.getFeatures q).1.seen :: ((e.getFeatures q).2.run steps).1.map Outcome.seen ∧
      (e.run (.getFeatures q :: steps)).2 = ((e.getFeatures q).2.run steps).2 := ⟨rfl, rfl⟩

theorem run_getFeatures {e : Engine} (hcaches : e.caches = true) {m : Memory FeatureSet} (hm : e.cache = .memory m)
    (qs : List Query) :
    (e.run (qs.map .getFeatures)).1.map Outcome.seen =
        (answers e.config qs (m.getEach (requests e.config qs) e.source).1).map Answer.seen ∧
      (e.run (qs.map .getFeatures)).2 =
        ⟨e.config, .memory (m.getEach (requests e.config qs) e.source).2.1,
          (m.getEach (requests e.config qs) e.source).2.2⟩ := by
  induction qs generalizing e m with
  | nil =>
      refine ⟨rfl, ?_⟩
      obtain ⟨config, cache, source⟩ := e
      obtain rfl : cache = .memory m := hm
      rfl
  | cons q qs ih =>
      obtain ⟨hhead, hlast⟩ := e.seen_run_cons q (qs.map .getFeatures)
      rw [List.map_cons, hhead, hlast]
      cases hresolve : e.config.resolve q with
      | error fault =>
          obtain ⟨hseen, hend⟩ := ih hcaches hm
          rw [getFeatures_of_error hresolve, requests_of_error hresolve, answers_of_error hresolve, List.map_cons, hseen]
          exact ⟨rfl, hend⟩
      | ok found =>
          obtain ⟨p, environment⟩ := found
          have hget : e.getFeatures q = (answer p environment q.context (m.get (request p environment) e.source).1,
              ⟨e.config, .memory (m.get (request p environment) e.source).2.1,
                (m.get (request p environment) e.source).2.2⟩) := by
            rw [getFeatures_of_resolve hresolve, cacheInUse_of_memory hcaches hm, after, hcaches]
            rfl
          obtain ⟨hseen, hend⟩ := ih (e := (e.getFeatures q).2) (by rw [hget]; exact hcaches) (by rw [hget])
          rw [hget] at hseen hend ⊢
          rw [requests_of_resolve hresolve, Memory.getEach]
          dsimp only
          rw [answers_of_resolve hresolve, List.map_cons, hseen]
          exact ⟨rfl, hend⟩

theorem getAllFeatures_of_memory {e : Engine} (hcaches : e.caches = true) {m : Memory FeatureSet}
    (hm : e.cache = .memory m) (qs : List Query) :
    e.getAllFeatures qs =
      (answers e.config qs (m.getAll (requests e.config qs) e.source).1,
        ⟨e.config, .memory (m.getAll (requests e.config qs) e.source).2.1,
          (m.getAll (requests e.config qs) e.source).2.2⟩) := by
  rw [getAllFeatures_eq, cacheInUse_of_memory hcaches hm]
  dsimp only [Cache.getAll, after]
  rw [hcaches]
  rfl

section Together

variable {e : Engine} {m : Memory FeatureSet}

theorem getAll_eq_getEach (hfailures : e.source.failures = []) (m : Memory FeatureSet) (qs : List Query) :
    (m.getAll (requests e.config qs) e.source).1 = (m.getEach (requests e.config qs) e.source).1 ∧
      (m.getAll (requests e.config qs) e.source).2.1 = (m.getEach (requests e.config qs) e.source).2.1 := by
  have hrequests := steady_requests e.source.body? (resolved e.config qs) 0
  have hsteady : Source.Steady e.source.body? e.source := ⟨hfailures, rfl⟩
  obtain ⟨hall, hallMemory, -⟩ := m.getAll_alike hrequests (t := Ledger.blank) hsteady
  obtain ⟨heach, heachMemory, -⟩ := m.getEach_alike hrequests (t := Ledger.blank) hsteady
  rw [m.getAll_of_commute (Ask.commute_requests _ 0) .blank] at hall hallMemory
  rw [requests_eq]
  exact ⟨hall.trans heach.symm, hallMemory.trans heachMemory.symm⟩

theorem fetched_getAll (m : Memory FeatureSet) (hinUse : e.cacheInUse = .memory m) (qs : List Query) :
    (m.getAll (requests e.config qs) e.source).2.2.fetched =
      e.source.fetched ++ (e.fetches qs).map (·.1.location) := by
  have hstart : Recorded e.source.fetched e.source (e.source, []) := ⟨rfl, (List.append_nil _).symm⟩
  obtain ⟨-, -, -, hfetched⟩ := m.getAll_alike (recorded_requests e.source.fetched (resolved e.config qs)) hstart
  rw [requests_eq, fetches, hinUse]
  exact hfetched

theorem entered_fetches (hinUse : e.cacheInUse = .memory m) (hfailures : e.source.failures = []) (qs : List Query) :
    (∀ about ∈ e.fetches qs, about ∈ resolved e.config qs) ∧
      ∀ key, ((e.fetches qs).map cacheKey).count key =
        (Ask.serve (m.held? key) (Ask.callsFor key ((resolved e.config qs).map (ask e.source.body?)) 0)).2.length := by
  have hstart : Entered e.source.body? (resolved e.config qs) (e.source, []) .blank :=
    ⟨⟨hfailures, rfl⟩, by simp, fun key => by simp [Ledger.blank]⟩
  obtain ⟨-, -, hend⟩ := m.getAll_alike (entered_requests e.source.body? (fun _ h => h) 0) hstart
  have hfetches : (m.getAll ((resolved e.config qs).map fun about => (request about.1 about.2).logged about)
      (e.source, [])).2.2.2 = e.fetches qs := by
    rw [fetches, hinUse]
    rfl
  refine ⟨hfetches ▸ hend.mem, fun key => ?_⟩
  have hcount := hend.count key
  rw [hfetches, m.getAll_of_commute (Ask.commute_requests _ 0) .blank,
    (Ask.getEach_requests key m _ 0 .blank).2] at hcount
  exact hcount

end Together

/-- Queries that are asked at the same time, while no failure is due, are answered as they would be one after the
other. What they fetch is for those queries that are about some project: for a key that holds features nothing is
fetched, for any other key the document is fetched once if features can be read from it, and else for each query. -/
theorem getAllFeatures_coalesce {e : Engine} (hbuilt : e.config.Built) (hsecret : e.config.secret.isSome = true)
    {m : Memory FeatureSet} (hm : e.cache = .memory m) (hfailures : e.source.failures = []) (qs : List Query) :
    let together := e.getAllFeatures qs
    let each := e.run (qs.map .getFeatures)
    together.1.map Answer.seen = each.1.map Outcome.seen ∧
    together.2.cache = each.2.cache ∧
    together.2.source.fetched = e.source.fetched ++ (e.fetches qs).map (·.1.location) ∧
    (∀ about ∈ e.fetches qs, ∃ q ∈ qs, e.config.resolve q = .ok about) ∧
    ∀ p ∈ e.config.projects, ∀ environment,
      let key : CacheKey := ⟨p.key, environment⟩
      let fetched := ((e.fetches qs).map cacheKey).count key
      let asked := ((resolved e.config qs).map cacheKey).count key
      (e.held? key ≠ none → fetched = 0) ∧
      (e.held? key = none → e.source.Readable p.location → asked ≠ 0 → fetched = 1) ∧
      (e.held? key = none → ¬e.source.Readable p.location → fetched = asked) := by
  intro together each
  have hcaches : e.caches = true := hsecret
  have hinUse : e.cacheInUse = .memory m := cacheInUse_of_memory hcaches hm
  have htogether := getAllFeatures_of_memory hcaches hm qs
  obtain ⟨hseen, hend⟩ := run_getFeatures hcaches hm qs
  obtain ⟨hanswers, hmemory⟩ := getAll_eq_getEach hfailures m qs
  obtain ⟨hmem, hcount⟩ := entered_fetches hinUse hfailures qs
  refine ⟨?_, ?_, ?_, ?_, ?_⟩
  · change (e.getAllFeatures qs).1.map Answer.seen = _
    rw [htogether, hseen, hanswers]
  · change (e.getAllFeatures qs).2.cache = (e.run (qs.map .getFeatures)).2.cache
    rw [htogether, hend, hmemory]
  · change (e.getAllFeatures qs).2.source.fetched = _
    rw [htogether]
    exact fetched_getAll m hinUse qs
  · exact fun about habout => mem_resolved.1 (hmem about habout)
  · intro p hp environment key fetched asked
    have hkeys : ((resolved e.config qs).map (ask e.source.body?)).map (·.key) =
        (resolved e.config qs).map cacheKey := by
      rw [List.map_map]
      rfl
    -- The projects of a configuration have keys of their own, so all calls for the key load from one location.
    have hproject : ∀ a ∈ (resolved e.config qs).map (ask e.source.body?), a.key = key →
        a.outcome = FeatureSet.ofFetched (.ok (e.source.body? p.location)) := by
      intro a ha hkey
      obtain ⟨about, habout, rfl⟩ := List.mem_map.1 ha
      obtain ⟨q, -, hresolve⟩ := mem_resolved.1 habout
      have hsame : about.1 = p :=
        hbuilt.eq_of_key (Config.mem_of_resolve hresolve) hp (congrArg CacheKey.project hkey)
      rw [ask, hsame]
    have hheld : e.held? key = m.held? key := by rw [held?, hinUse]; rfl
    have hfetched : fetched = _ := hcount key
    rw [hheld, hfetched]
    refine ⟨fun h => ?_, fun hnone hreadable hasked => ?_, fun hnone hreadable => ?_⟩
    · obtain ⟨features, hfeatures⟩ := Option.ne_none_iff_exists'.1 h
      rw [hfeatures, Ask.serve_some]
      rfl
    · obtain ⟨features, hfeatures⟩ := Source.ofFetched_of_readable hreadable
      rw [hnone]
      exact Ask.length_serve_of_ok (fun a ha hkey => (hproject a ha hkey).trans hfeatures) (hkeys ▸ hasked) 0
    · rw [hnone, Ask.length_serve_of_fails (fun a ha hkey =>
        ⟨_, (hproject a ha hkey).trans (Source.ofFetched_of_not_readable hreadable)⟩) 0, hkeys]

end

def askedAtOnce : List Query :=
  [⟨some "acme/web/1", none, ∅⟩, ⟨some "acme/web/2", none, ∅⟩, ⟨some "acme/web/3", none, ∅⟩,
    ⟨some "ACME/web/1 ", some "Production!", ∅⟩, ⟨some "acme/web/2", none, ∅⟩]

/-- Only the first project has a document. -/
theorem getAllFeatures_neighbours :
    let e : Engine := ⟨neighbours, .memory ∅, Source.empty.set ⟨"acme", "web", 1⟩ "## Login\n- [x] Enabled\n"⟩
    let fetched := (e.fetches askedAtOnce).map cacheKey
    neighbours.Built ∧ fetched.count ⟨"acme/web/1", "production"⟩ = 1 ∧
      fetched.count ⟨"acme/web/2", "production"⟩ = 2 := by
  intro e fetched
  have hbuilt : neighbours.Built :=
    ⟨⟨neighbours.projects, neighbours.secret, neighbours.defaultEnvironment, false⟩, rfl⟩
  obtain ⟨-, -, -, -, hcounts⟩ := getAllFeatures_coalesce (e := e) hbuilt rfl rfl rfl askedAtOnce
  have hreadable : e.source.Readable ⟨"acme", "web", 1⟩ :=
    ⟨"## Login\n- [x] Enabled\n", rfl, by decide +kernel⟩
  have hmissing : ¬e.source.Readable ⟨"acme", "web", 2⟩ := by
    rintro ⟨text, htext, -⟩
    cases htext
  refine ⟨hbuilt, ?_, ?_⟩
  · obtain ⟨-, honce, -⟩ := hcounts (.ofIssue "acme/web" 1) List.mem_cons_self "production"
    exact honce rfl hreadable (by decide +kernel)
  · obtain ⟨-, -, heach⟩ := hcounts (.ofIssue "acme/web" 2) (List.mem_cons_of_mem _ List.mem_cons_self) "production"
    exact (heach rfl hmissing).trans (by decide +kernel)

end Engine

end FlagSheet
