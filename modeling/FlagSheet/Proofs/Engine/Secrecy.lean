import FlagSheet.Proofs.Config
import FlagSheet.Proofs.Engine.Delivery

namespace FlagSheet

def Settings.withSecret (s : Settings) (secret : Secret) : Settings := { s with secret := some secret }

def Config.withSecret (c : Config) (secret : Secret) : Config := { c with secret := some secret }

theorem Settings.build_secret (s : Settings) {a b : Secret} (ha : a.isBlank = false) (hb : b.isBlank = false) :
    (s.withSecret b).build = (s.withSecret a).build.map (Config.withSecret · b) := by
  unfold build withSecret
  dsimp only
  split
  · rfl
  · split
    · rfl
    · rw [Option.filter_some, Option.filter_some, ha, hb]
      rfl

theorem Settings.secret_of_build {s : Settings} {a : Secret} (ha : a.isBlank = false) {c : Config}
    (h : (s.withSecret a).build = .ok c) : c.secret = some a := by
  rw [secret_of_built h, withSecret, Option.filter_some, ha]
  rfl

theorem Config.describe_withSecret {c : Config} {a : Secret} (ha : c.secret = some a) (b : Secret) :
    (c.withSecret b).describe = c.describe := by
  unfold describe
  rw [ha]
  rfl

def Step.isDelivery : Step → Bool
  | .deliver _ _ => true
  | _ => false

/-- The same step, where a delivery is rightly signed under the first secret just when it is under the second. -/
inductive Step.Paired (a b : Secret) : Step → Step → Prop where
  | same {s : Step} (h : s.isDelivery = false) : Paired a b s s
  | deliver (body : Bytes) {signature signature' : Option String}
      (h : signature = some (Signature.compute a.expose body) ↔ signature' = some (Signature.compute b.expose body)) :
      Paired a b (.deliver body signature) (.deliver body signature')

namespace Engine

section

def withSecret (e : Engine) (secret : Secret) : Engine := { e with config := e.config.withSecret secret }

variable {e : Engine} {a : Secret}

theorem caches_of_secret (ha : e.config.secret = some a) : e.caches = true := by rw [caches, ha, Option.isSome_some]

theorem cacheInUse_withSecret (he : e.caches = true) (b : Secret) : (e.withSecret b).cacheInUse = e.cacheInUse :=
  (if_pos rfl).trans (if_pos he).symm

theorem after_withSecret (he : e.caches = true) (b : Secret) (cache : Cache FeatureSet) (source : Source) :
    (e.withSecret b).after cache source = (e.after cache source).withSecret b := by
  unfold after
  rw [he]
  rfl

theorem answers_withSecret (c : Config) (b : Secret) (qs : List Query) (loaded : List (Except LoadError FeatureSet)) :
    answers (c.withSecret b) qs loaded = answers c qs loaded := by
  induction qs generalizing loaded with
  | nil => rfl
  | cons q qs ih =>
      have hsame : (c.withSecret b).resolve q = c.resolve q := rfl
      rw [answers.eq_def, answers.eq_def]
      dsimp only
      rw [hsame]
      cases c.resolve q with
      | error fault => rw [ih]
      | ok found =>
          cases loaded with
          | nil => rfl
          | cons features loaded =>
              dsimp only
              rw [ih]

theorem announce_withSecret (he : e.caches = true) (b : Secret) (event : IssueEvent) :
    (e.withSecret b).announce event = (e.announce event).withSecret b := by
  have hsame : (e.withSecret b).projectAt? event.repository event.issue =
      e.projectAt? event.repository event.issue := rfl
  rw [announce_eq, announce_eq, hsame]
  cases e.projectAt? event.repository event.issue with
  | none => rfl
  | some p =>
      dsimp only
      rw [cacheInUse_withSecret he, after_withSecret he]
      rfl

theorem deliver_withSecret (ha : e.config.secret = some a) (b : Secret) {body : Bytes}
    {signature signature' : Option String}
    (h : signature = some (Signature.compute a.expose body) ↔ signature' = some (Signature.compute b.expose body)) :
    (e.withSecret b).deliver body signature' =
      ((e.deliver body signature).1, (e.deliver body signature).2.withSecret b) := by
  have hcaches : e.caches = true := caches_of_secret ha
  have hb : (e.withSecret b).config.secret = some b := rfl
  by_cases hsigned : signature = some (Signature.compute a.expose body)
  · rw [hsigned, h.1 hsigned, deliver_signed ha, deliver_signed hb]
    cases IssueEvent.parse body with
    | error fault => rfl
    | ok event => exact congrArg (Response.accepted, ·) (announce_withSecret hcaches b event)
  · rw [deliver_unsigned ha hsigned, deliver_unsigned hb (mt h.2 hsigned)]

variable [Markdown]

theorem getFeatures_withSecret (he : e.caches = true) (b : Secret) (q : Query) :
    (e.withSecret b).getFeatures q = ((e.getFeatures q).1, (e.getFeatures q).2.withSecret b) := by
  have hsame : (e.withSecret b).config.resolve q = e.config.resolve q := rfl
  cases hresolve : e.config.resolve q with
  | error fault => rw [getFeatures_of_error hresolve, getFeatures_of_error (hsame.trans hresolve)]
  | ok found =>
      rw [getFeatures_of_resolve hresolve, getFeatures_of_resolve (hsame.trans hresolve), cacheInUse_withSecret he,
        after_withSecret he]
      rfl

theorem getAllFeatures_withSecret (he : e.caches = true) (b : Secret) (qs : List Query) :
    (e.withSecret b).getAllFeatures qs = ((e.getAllFeatures qs).1, (e.getAllFeatures qs).2.withSecret b) := by
  have hrequests : requests (e.withSecret b).config qs = requests e.config qs := rfl
  rw [getAllFeatures_eq, getAllFeatures_eq, hrequests, cacheInUse_withSecret he, after_withSecret he]
  exact congrArg (·, _) (answers_withSecret e.config b qs _)

theorem act_withSecret (ha : e.config.secret = some a) {b : Secret} {s s' : Step} (h : s.Paired a b s') :
    (e.withSecret b).act s' = ((e.act s).1, (e.act s).2.withSecret b) := by
  have hcaches : e.caches = true := caches_of_secret ha
  cases h with
  | deliver body h =>
      simp only [act, deliver_withSecret ha b h]
  | same h =>
      unfold act
      cases s with
      | set | remove | failNext => rfl
      | getFeatures q | isEnabled _ q => simp only [getFeatures_withSecret hcaches]
      | together qs => simp only [getAllFeatures_withSecret hcaches]
      | deliver => cases h

theorem step_withSecret (ha : e.config.secret = some a) {b : Secret} {s s' : Step} (h : s.Paired a b s') :
    (e.withSecret b).step s' = ((e.step s).1, (e.step s).2.withSecret b) := by
  unfold step
  rw [act_withSecret ha h]
  rfl

theorem run_withSecret (ha : e.config.secret = some a) {b : Secret} {steps steps' : List Step}
    (h : List.Forall₂ (Step.Paired a b) steps steps') :
    (e.withSecret b).run steps' = ((e.run steps).1, (e.run steps).2.withSecret b) := by
  induction h generalizing e with
  | nil => rfl
  | @cons s s' steps steps' hs _ ih =>
      have hnext : (e.step s).2.config.secret = some a := (congrArg Config.secret (config_act e s)).trans ha
      rw [run, run, step_withSecret ha hs]
      dsimp only
      rw [ih hnext]

/-- Of two secrets, neither blank, nothing tells which one settings have: not the text of the configuration, and no run
on deliveries of which each is rightly signed under both secrets or under neither. -/
theorem run_secrecy (s : Settings) {a b : Secret} (ha : a.isBlank = false) (hb : b.isBlank = false) :
    (s.withSecret a).build.map Config.describe = (s.withSecret b).build.map Config.describe ∧
    ∀ c d, (s.withSecret a).build = .ok c → (s.withSecret b).build = .ok d →
      ∀ (cache : Cache FeatureSet) (source : Source) (steps steps' : List Step),
        List.Forall₂ (Step.Paired a b) steps steps' →
        ((⟨c, cache, source⟩ : Engine).run steps).1 = ((⟨d, cache, source⟩ : Engine).run steps').1 := by
  have hbuild := s.build_secret ha hb
  refine ⟨?_, ?_⟩
  · rw [hbuild]
    cases hc : (s.withSecret a).build with
    | error fault => rfl
    | ok c => exact congrArg Except.ok (Config.describe_withSecret (Settings.secret_of_build ha hc) b).symm
  · intro c d hc hd cache source steps steps' h
    rw [hc] at hbuild
    obtain rfl : d = c.withSecret b := Except.ok.inj (hd.symm.trans hbuild)
    have hrun := run_withSecret (e := ⟨c, cache, source⟩) (Settings.secret_of_build ha hc) h
    exact (congrArg Prod.fst hrun).symm

end

def confirmedUnder (secret : String) : List Step :=
  askedOfBoth ++ [.deliver (IssueEvent.payload "acme/web" 1) none,
    .deliver (IssueEvent.payload "acme/web" 1) (some (Signature.compute secret (IssueEvent.payload "acme/web" 1)))]

theorem run_secrecy_neighbours :
    ((⟨neighbours, .memory ∅, .empty⟩ : Engine).run (confirmedUnder "s3cret")).1 =
      ((⟨neighbours.withSecret ⟨"passw0rd"⟩, .memory ∅, .empty⟩ : Engine).run (confirmedUnder "passw0rd")).1 := by
  have hsteps : List.Forall₂ (Step.Paired ⟨"s3cret"⟩ ⟨"passw0rd"⟩) (confirmedUnder "s3cret")
      (confirmedUnder "passw0rd") := by
    refine .cons (.same rfl) (.cons (.same rfl) (.cons (.same rfl) (.cons (.same rfl) ?_)))
    exact .cons (.deliver _ ⟨nofun, nofun⟩) (.cons (.deliver _ ⟨fun _ => rfl, fun _ => rfl⟩) .nil)
  have hblank : (⟨"s3cret"⟩ : Secret).isBlank = false := by decide +kernel
  have hblank' : (⟨"passw0rd"⟩ : Secret).isBlank = false := by decide +kernel
  exact (run_secrecy ⟨neighbours.projects, none, some "production", false⟩ hblank hblank').2 _ _ rfl rfl _ _ _ _ hsteps

end Engine

end FlagSheet
