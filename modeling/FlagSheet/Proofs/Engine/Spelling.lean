import FlagSheet.Proofs.Engine.OwnKey
import FlagSheet.Proofs.Engine.Together
import FlagSheet.Proofs.Slug.Canonical

namespace FlagSheet

open Text

theorem FeatureSet.evaluate_slugify (fs : FeatureSet) (environment : String) (c : Context) (r : Registry) :
    fs.evaluate (slugify environment) c r = fs.evaluate environment c r := by
  rw [evaluate, evaluate, slugify_slugify]

def Query.inEnvironment (q : Query) (environment : String) : Query := { q with environment := some environment }

theorem Config.resolve_inEnvironment (c : Config) (q : Query) {environment : String} (h : allBlank environment = false) :
    c.resolve (q.inEnvironment environment) = (c.resolveProject q.project).map fun p => (p, slugify environment) := by
  rw [resolve, Query.inEnvironment, resolveEnvironment_of_content h]
  cases c.resolveProject q.project <;> rfl

namespace Engine

section

variable [Markdown] {e : Engine} {q q' : Query}

theorem getFeatures_congr (hresolve : e.config.resolve q = e.config.resolve q') (hcontext : q.context = q'.context) :
    e.getFeatures q = e.getFeatures q' := by
  rw [getFeatures, getFeatures, hresolve, hcontext]

theorem held?_of_answered (hcaches : e.caches = true) {m : Memory FeatureSet} (hm : e.cache = .memory m)
    {enabled : SlugSet} (h : (e.getFeatures q).1.enabled = .ok enabled) :
    ∃ p environment features, e.config.resolve q = .ok (p, environment) ∧
      (e.getFeatures q).1 = answer p environment q.context (.ok features) ∧
      (e.getFeatures q).2.held? ⟨p.key, environment⟩ = some features := by
  cases hresolve : e.config.resolve q with
  | error fault =>
      rw [getFeatures_of_error hresolve] at h
      cases h
  | ok about =>
      obtain ⟨p, environment⟩ := about
      have hheld := held?_getFeatures_of_memory hcaches hm hresolve
      have hanswer : (e.getFeatures q).1 =
          answer p environment q.context (m.get (request p environment) e.source).1 := by
        rw [getFeatures_of_resolve hresolve, cacheInUse_of_memory hcaches hm]
        rfl
      cases hloaded : (m.get (request p environment) e.source).1 with
      | error failure =>
          rw [hanswer, hloaded] at h
          cases h
      | ok features =>
          rw [hloaded] at hheld hanswer
          exact ⟨p, environment, features, rfl, hanswer, hheld⟩

theorem getFeatures_again (hcaches : e.caches = true) {m : Memory FeatureSet} (hm : e.cache = .memory m)
    (hresolve : e.config.resolve q = e.config.resolve q') (hcontext : q.context = q'.context) {enabled : SlugSet}
    (h : (e.getFeatures q).1.enabled = .ok enabled) :
    (e.getFeatures q).2.getFeatures q' = ((e.getFeatures q).1, (e.getFeatures q).2) := by
  obtain ⟨p, environment, features, habout, hanswer, hheld⟩ := held?_of_answered hcaches hm h
  have habout' : (e.getFeatures q).2.config.resolve q' = .ok (p, environment) := by
    rw [config_getFeatures, ← hresolve, habout]
  rw [getFeatures_of_held habout' hheld, hanswer, hcontext]

/-- An evaluation goes by the slug of the environment, and texts that differ in the case of ASCII letters have one slug.
Two queries that differ in the spelling of their environment alone are answered alike, and have one key in the cache: when
the first has been answered, the second one is answered from there. -/
theorem getFeatures_spelling :
    (∀ (fs : FeatureSet) (environment : String) (c : Context) (r : Registry),
      fs.evaluate environment c r = fs.evaluate (slugify environment) c r) ∧
    (∀ a b : String, sameAscii a.toList b.toList = true → slugify a = slugify b) ∧
    ∀ (e : Engine) (q : Query) (a b : String), allBlank a = false → allBlank b = false → slugify a = slugify b →
      e.step (.getFeatures (q.inEnvironment a)) = e.step (.getFeatures (q.inEnvironment b)) ∧
      (∀ names, e.step (.isEnabled names (q.inEnvironment a)) = e.step (.isEnabled names (q.inEnvironment b))) ∧
      (requests e.config [q.inEnvironment a]).map (·.key) = (requests e.config [q.inEnvironment b]).map (·.key) ∧
      ∀ m, e.config.secret.isSome = true → e.cache = .memory m →
        let o := (e.step (.getFeatures (q.inEnvironment a))).1
        let e' := (e.step (.getFeatures (q.inEnvironment a))).2
        ∀ enabled, o.reply = .features (.ok enabled) →
          e'.step (.getFeatures (q.inEnvironment b)) = (⟨o.reply, [], o.calls, o.cached⟩, e') := by
  refine ⟨fun fs environment c r => (fs.evaluate_slugify environment c r).symm, fun a b => slugify_of_sameAscii, ?_⟩
  intro e q a b ha hb hslug
  have hresolve : e.config.resolve (q.inEnvironment a) = e.config.resolve (q.inEnvironment b) := by
    rw [Config.resolve_inEnvironment _ _ ha, Config.resolve_inEnvironment _ _ hb, hslug]
  have hsame : e.getFeatures (q.inEnvironment a) = e.getFeatures (q.inEnvironment b) := getFeatures_congr hresolve rfl
  refine ⟨?_, fun names => ?_, ?_, ?_⟩
  · simp only [step, act, hsame]
  · simp only [step, act, hsame]
  · simp only [requests, List.filterMap_cons, hresolve]
  · intro m hcaches hm o e' enabled hreply
    have hagain := getFeatures_again hcaches hm hresolve rfl (Reply.features.inj hreply)
    change (e.getFeatures (q.inEnvironment a)).2.step (.getFeatures (q.inEnvironment b)) = _
    simp only [step, act, hagain, List.drop_length]
    rfl

end

theorem getFeatures_spelling_production :
    let e : Engine := ⟨neighbours, .memory ∅, Source.empty.set ⟨"acme", "web", 1⟩ "## Login\n- [x] Enabled\n"⟩
    let q : Query := ⟨some "acme/web/1", none, ∅⟩
    let o := (e.step (.getFeatures (q.inEnvironment "Pre-Production"))).1
    let e' := (e.step (.getFeatures (q.inEnvironment "Pre-Production"))).2
    o.fetched = [⟨"acme", "web", 1⟩] ∧
      e'.step (.getFeatures (q.inEnvironment "# PRE_production!")) = (⟨o.reply, [], o.calls, o.cached⟩, e') := by
  intro e q o e'
  obtain ⟨-, -, h⟩ := getFeatures_spelling
  have ha : allBlank "Pre-Production" = false := by decide +kernel
  have hb : allBlank "# PRE_production!" = false := by decide +kernel
  have hslug : slugify "Pre-Production" = slugify "# PRE_production!" := by decide +kernel
  exact ⟨rfl, (h e q _ _ ha hb hslug).2.2.2 ∅ rfl rfl _ rfl⟩

end Engine

end FlagSheet
