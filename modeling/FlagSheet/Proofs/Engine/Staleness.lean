import FlagSheet.Markup.Reader
import FlagSheet.Proofs.Config
import FlagSheet.Proofs.Engine.Step
import Mathlib.Data.List.Induction

namespace FlagSheet.Engine

section

variable [Markdown] {e : Engine}

/-- The features are those of a body that the location of the project had at some moment of the run, since when no
step has dropped the features of the project. -/
def Recent (e : Engine) (steps : List Step) (p : Project) (features : FeatureSet) : Prop :=
  ∃ seen unseen body, steps = seen ++ unseen ∧ (∀ s ∈ unseen, e.dropped? s ≠ some p) ∧
    (e.run seen).2.source.body? p.location = some body ∧ FeatureSet.ofDocument? (some body) = some features

theorem Recent.snoc {steps : List Step} {p : Project} {features : FeatureSet} (h : e.Recent steps p features)
    {s : Step} (hs : e.dropped? s ≠ some p) : e.Recent (steps ++ [s]) p features := by
  obtain ⟨seen, unseen, body, rfl, hunseen, hbody, hfeatures⟩ := h
  refine ⟨seen, unseen ++ [s], body, List.append_assoc _ _ _, ?_, hbody, hfeatures⟩
  intro t ht
  rcases List.mem_append.1 ht with ht | ht
  · exact hunseen t ht
  · rw [List.mem_singleton.1 ht]
    exact hs

theorem Recent.of_load {steps : List Step} {p : Project} {features : FeatureSet}
    (h : ((e.run steps).2.source.load p.location).1 = .ok features) : e.Recent steps p features := by
  obtain ⟨body, hbody, hfeatures⟩ := Source.body?_of_load_ok h
  exact ⟨steps, [], body, (List.append_nil _).symm, by simp, hbody, hfeatures⟩

theorem dropped?_run (e : Engine) (steps : List Step) (s : Step) : (e.run steps).2.dropped? s = e.dropped? s := by
  have hc := config_run e steps
  cases s <;> simp only [dropped?, projectAt?, hc]

/-- Every value that is held stems from a recent body, at the location of the project of its key. -/
theorem recent_of_held (hc : e.cacheInUse.ByProject) (hnone : ∀ key, e.held? key = none) (steps : List Step)
    (hs : ∀ s ∈ steps, s.Single) {key : CacheKey} {features : FeatureSet}
    (h : (e.run steps).2.held? key = some features) :
    ∃ p ∈ e.config.projects, p.key = key.project ∧ e.Recent steps p features := by
  induction steps using List.reverseRecOn generalizing key features with
  | nil =>
      rw [show (e.run []).2 = e from rfl, hnone] at h
      cases h
  | append_singleton steps s ih =>
      have hsteps : ∀ t ∈ steps, t.Single := fun t ht => hs t (List.mem_append_left _ ht)
      have hlast : s.Single := hs s (List.mem_append_right _ (List.mem_singleton_self s))
      rw [run_snoc] at h
      obtain ⟨hheld, hdrop⟩ | ⟨q, p, environment, hresolve, rfl, -, hdrop, hload⟩ :=
        held?_act hlast (byProject_run hc steps) h
      · obtain ⟨p, hp, hkey, hrecent⟩ := ih hsteps hheld
        refine ⟨p, hp, hkey, hrecent.snoc ?_⟩
        intro hd
        rw [← dropped?_run e steps] at hd
        exact hdrop p hd hkey
      · rw [config_run] at hresolve
        rw [dropped?_run] at hdrop
        refine ⟨p, Config.mem_of_resolve hresolve, rfl, (Recent.of_load hload).snoc ?_⟩
        rw [hdrop]
        exact Option.some_ne_none p |>.symm

theorem features_eq_of_document {body : String} {features : FeatureSet}
    (h : FeatureSet.ofDocument? (some body) = some features) : features = FeatureSet.ofText body := by
  unfold FeatureSet.ofDocument? at h
  dsimp only at h
  split at h
  · cases h
  · exact (Option.some.inj h).symm

theorem recent_of_answer (hbuilt : e.config.Built) (hc : e.cacheInUse.ByProject) (hnone : ∀ key, e.held? key = none)
    {steps : List Step} (hs : ∀ s ∈ steps, s.Single) {q : Query} {p : Project} {environment : String}
    (hresolve : e.config.resolve q = .ok (p, environment)) {enabled : SlugSet}
    (h : ((e.run steps).2.getFeatures q).1.enabled = .ok enabled) :
    ∃ features, e.Recent steps p features ∧
      enabled = (features.evaluate environment q.context p.conditions).enabled := by
  have hresolve' : (e.run steps).2.config.resolve q = .ok (p, environment) := by rw [config_run, hresolve]
  cases hheld : (e.run steps).2.held? ⟨p.key, environment⟩ with
  | some features =>
      obtain ⟨r, hr, hkey, hrecent⟩ := recent_of_held hc hnone steps hs hheld
      obtain rfl := hbuilt.eq_of_key hr (Config.mem_of_resolve hresolve) hkey
      rw [getFeatures_of_held hresolve' hheld] at h
      exact ⟨features, hrecent, (Except.ok.inj h).symm⟩
  | none =>
      rw [(getFeatures_of_not_held hresolve' hheld).1] at h
      cases hload : ((e.run steps).2.source.load p.location).1 with
      | error failure => rw [hload] at h; cases h
      | ok features =>
          rw [hload] at h
          exact ⟨features, Recent.of_load hload, (Except.ok.inj h).symm⟩

theorem fetched_of_failure {q : Query} {p : Project} {environment : String}
    (hresolve : e.config.resolve q = .ok (p, environment)) {fault : QueryError}
    (h : (e.getFeatures q).1.enabled = .error fault) :
    (e.getFeatures q).2.source.fetched = e.source.fetched ++ [p.location] ∧
      ∃ failure, fault = .load failure ∧
        FeatureSet.ofFetched (e.source.fetch p.location).1 = .error failure := by
  cases hheld : e.held? ⟨p.key, environment⟩ with
  | some features => rw [getFeatures_of_held hresolve hheld] at h; cases h
  | none =>
      obtain ⟨hanswer, hsource⟩ := getFeatures_of_not_held hresolve hheld
      rw [hanswer] at h
      rw [hsource, Source.fetched_load]
      cases hload : (e.source.load p.location).1 with
      | ok features => rw [hload] at h; cases h
      | error failure =>
          rw [hload] at h
          exact ⟨rfl, failure, (Except.error.inj h).symm, hload⟩

/-- In every run of an engine with a memory of its own, a successful answer evaluates a body that the location of
the project had at some moment after the last delivery selecting the project. A query whose key holds
features fetches nothing, and one that fails although its project and its environment are known reports the
failure of a fetch of its own. -/
theorem getFeatures_staleness {config : Config} (hbuilt : config.Built) (source : Source) {before : List Step}
    (hbefore : ∀ s ∈ before, s.Single) (after : List Step) (q : Query) {o : Outcome}
    (ho : ((ofConfig config source).run (before ++ .getFeatures q :: after)).1[before.length]? = some o) :
    (∀ enabled, o.reply = .features (.ok enabled) →
      ∃ p environment seen unseen body, config.resolve q = .ok (p, environment) ∧ before = seen ++ unseen ∧
        (∀ s ∈ unseen, (ofConfig config source).dropped? s ≠ some p) ∧
        ((ofConfig config source).run seen).2.source.body? p.location = some body ∧
        enabled = ((FeatureSet.ofText body).evaluate environment q.context p.conditions).enabled) ∧
    ∀ p environment, config.resolve q = .ok (p, environment) →
      (((ofConfig config source).run before).2.held? ⟨p.key, environment⟩ ≠ none → o.fetched = []) ∧
      ∀ fault, o.reply = .features (.error fault) →
        o.fetched = [p.location] ∧ ∃ failure, fault = .load failure ∧
          FeatureSet.ofFetched (((ofConfig config source).run before).2.source.fetch p.location).1 =
            .error failure := by
  rw [outcome_of_run] at ho
  cases ho
  have hconfig : ((ofConfig config source).run before).2.config = config := config_run _ _
  refine ⟨?_, ?_⟩
  · intro enabled hreply
    have henabled : (((ofConfig config source).run before).2.getFeatures q).1.enabled = .ok enabled :=
      Reply.features.inj hreply
    cases hresolve : config.resolve q with
    | error fault =>
        rw [getFeatures_of_error (hconfig ▸ hresolve)] at henabled
        cases henabled
    | ok found =>
        obtain ⟨p, environment⟩ := found
        obtain ⟨features, ⟨seen, unseen, body, hsplit, hunseen, hbody, hdocument⟩, heval⟩ :=
          recent_of_answer hbuilt (byProject_ofConfig config source) (held?_ofConfig config source) hbefore hresolve
            henabled
        rw [features_eq_of_document hdocument] at heval
        exact ⟨p, environment, seen, unseen, body, rfl, hsplit, hunseen, hbody, heval⟩
  · intro p environment hresolve
    rw [← hconfig] at hresolve
    refine ⟨?_, ?_⟩
    · intro hheld
      obtain ⟨features, hfeatures⟩ := Option.ne_none_iff_exists'.1 hheld
      change List.drop _ (Engine.getFeatures _ q).2.source.fetched = []
      rw [getFeatures_of_held hresolve hfeatures, List.drop_length]
    · intro fault hreply
      obtain ⟨hfetched, hfailure⟩ := fetched_of_failure hresolve (Reply.features.inj hreply)
      refine ⟨?_, hfailure⟩
      change List.drop _ (Engine.getFeatures _ q).2.source.fetched = _
      rw [hfetched, List.drop_left]

end

def solo : Project := .ofIssue "acme/web" 1

def soloConfig : Config := ⟨[solo], some ⟨"s3cret"⟩, some "production", false⟩

def removal : List Step := [.set solo.location "Flags", .getFeatures ∅, .remove solo.location]

theorem getFeatures_staleness_removed :
    ∃ enabled o seen unseen body,
      ((ofConfig soloConfig .empty).run (removal ++ [.getFeatures ∅])).1[3]? = some o ∧
      o.reply = .features (.ok enabled) ∧ o.fetched = [] ∧ removal = seen ++ unseen ∧
      (∀ s ∈ unseen, (ofConfig soloConfig .empty).dropped? s ≠ some solo) ∧
      ((ofConfig soloConfig .empty).run seen).2.source.body? solo.location = some body ∧
      enabled = ((FeatureSet.ofText body).evaluate "production" ∅ solo.conditions).enabled := by
  have hbuilt : soloConfig.Built :=
    ⟨⟨soloConfig.projects, soloConfig.secret, soloConfig.defaultEnvironment, false⟩, rfl⟩
  have hresolve : soloConfig.resolve ∅ = .ok (solo, "production") := rfl
  have hsingle : ∀ s ∈ removal, s.Single := by simp [removal, Step.Single]
  have hheld : ((ofConfig soloConfig .empty).run removal).2.held? ⟨solo.key, "production"⟩ =
      some (FeatureSet.ofText "Flags") := rfl
  have ho := outcome_of_run (ofConfig soloConfig .empty) removal [] (.getFeatures ∅)
  obtain ⟨hok, hknown⟩ := getFeatures_staleness hbuilt .empty hsingle [] ∅ ho
  have hreply := congrArg (fun a => Reply.features a.1.enabled) (getFeatures_of_held hresolve hheld)
  obtain ⟨p, environment, seen, unseen, body, hp, hsplit, hunseen, hbody, henabled⟩ := hok _ hreply
  obtain ⟨rfl, rfl⟩ := Prod.mk.inj (Except.ok.inj (hresolve.symm.trans hp))
  refine ⟨_, _, seen, unseen, body, ho, hreply, ?_, hsplit, hunseen, hbody, henabled⟩
  apply (hknown solo "production" hresolve).1
  rw [hheld]
  exact Option.some_ne_none _

end FlagSheet.Engine
