import FlagSheet.Markup.Reader
import FlagSheet.Proofs.Config
import FlagSheet.Proofs.Engine.Step
import FlagSheet.Proofs.Location
import FlagSheet.Proofs.Webhook.Payload
import FlagSheet.Proofs.Webhook.Receive

namespace FlagSheet

namespace Step

def Plain : Step → Prop
  | failNext _ _ | together _ => False
  | _ => True

def Announces (secret : Secret) (l : Location) : Step → Prop
  | deliver body signature => signature = some (Signature.compute secret.expose body) ∧
      ∃ event, IssueEvent.parse body = .ok event ∧ event.repository = l.fullName ∧ event.issue = l.issue
  | _ => False

def announcement (secret : Secret) (l : Location) : Step :=
  deliver (IssueEvent.payload l.fullName l.issue)
    (some (Signature.compute secret.expose (IssueEvent.payload l.fullName l.issue)))

theorem announces_announcement (secret : Secret) (l : Location) : (announcement secret l).Announces secret l :=
  ⟨rfl, _, IssueEvent.parse_payload _ _, rfl, rfl⟩

theorem Plain.single {s : Step} (h : s.Plain) : s.Single := by
  cases s with
  | together => exact h
  | _ => trivial

end Step

/-- Every edit of the document of a project is announced by the step right after it. -/
def Config.Announced (config : Config) (secret : Secret) : List Step → Prop
  | [] => True
  | s :: steps =>
    (∀ l, s.edited? = some l → (∃ p ∈ config.projects, p.location = l) →
      ∃ a ∈ steps.head?, a.Announces secret l) ∧ config.Announced secret steps

/-- Every project that can be asked about is selected by the deliveries about its issue. -/
def Config.Reaching (config : Config) : Prop :=
  ∀ q p environment, config.resolve q = .ok (p, environment) →
    config.projects.find? (·.isAt p.location.fullName p.issue) = some p

theorem Config.reaching_iff {config : Config} (hbuilt : config.Built)
    (hspelled : ∀ p ∈ config.projects, p.Spelled) :
    config.Reaching ↔ ∀ q p environment, config.resolve q = .ok (p, environment) →
      ∃ before after, config.projects = before ++ p :: after ∧ ∀ r ∈ before, r.location ≠ p.location := by
  have hfirst {p : Project} (hp : p ∈ config.projects) :
      config.projects.find? (·.isAt p.location.fullName p.issue) = some p ↔
        ∃ before after, config.projects = before ++ p :: after ∧ ∀ r ∈ before, r.location ≠ p.location := by
    have hsound := hbuilt.fault?_project hp
    have hat {r : Project} (hr : r ∈ config.projects) :=
      Project.isAt_fullName_iff hsound (hbuilt.fault?_project hr) (hspelled p hp) (hspelled r hr)
    rw [List.find?_eq_some_iff_append]
    constructor
    · rintro ⟨-, before, after, hsplit, hbefore⟩
      refine ⟨before, after, hsplit, ?_⟩
      intro r hr hl
      have hmem : r ∈ config.projects := by rw [hsplit]; exact List.mem_append_left _ hr
      simpa [(hat hmem).2 hl] using hbefore r hr
    · rintro ⟨before, after, hsplit, hbefore⟩
      refine ⟨(hat hp).2 rfl, before, after, hsplit, ?_⟩
      intro r hr
      have hmem : r ∈ config.projects := by rw [hsplit]; exact List.mem_append_left _ hr
      rw [Bool.not_eq_true', ← Bool.not_eq_true, hat hmem]
      exact hbefore r hr
  constructor
  · intro h q p environment hresolve
    exact (hfirst (mem_of_resolve hresolve)).1 (h q p environment hresolve)
  · intro h q p environment hresolve
    exact (hfirst (mem_of_resolve hresolve)).2 (h q p environment hresolve)

namespace Engine

section

variable [Markdown]

omit [Markdown] in
theorem dropped?_of_announces {e : Engine} {secret : Secret} (hsecret : e.config.secret = some secret)
    {l : Location} {s : Step} (hs : s.Announces secret l) :
    e.dropped? s = e.projectAt? l.fullName l.issue := by
  cases s with
  | deliver body signature =>
      obtain ⟨rfl, event, hevent, hrepository, hissue⟩ := hs
      simp only [dropped?, hsecret, Webhook.receive_signed, hevent, Except.mapError, Except.toOption, hrepository,
        hissue, Option.bind_eq_bind, Option.bind_some]
  | _ => cases hs

theorem failures_act {e : Engine} (hf : e.source.failures = []) {s : Step} (hs : s.Plain) :
    (e.act s).2.source.failures = [] := by
  cases s with
  | set | remove => exact hf
  | getFeatures q | isEnabled _ q => exact failures_getFeatures hf q
  | deliver body signature =>
      rw [act_deliver]
      split <;> exact hf
  | failNext | together => cases hs

omit [Markdown] in
theorem cacheInUse_of_off {e : Engine} (hoff : e.cache = .off) : e.cacheInUse = .off := by
  rw [cacheInUse, hoff, ite_self]

omit [Markdown] in
theorem cache_after_of_off {e : Engine} (hoff : e.cache = .off) (source : Source) :
    (e.after .off source).cache = .off := by
  change (if e.caches then Cache.off else e.cache) = .off
  rw [hoff, ite_self]

theorem cache_act_of_off {e : Engine} (hoff : e.cache = .off) {s : Step} (hs : s.Plain) : (e.act s).2.cache = .off := by
  cases s with
  | set | remove => exact hoff
  | getFeatures q | isEnabled _ q =>
      change (e.getFeatures q).2.cache = .off
      cases h : e.config.resolve q with
      | error fault => rw [getFeatures_of_error h, hoff]
      | ok found =>
          rw [getFeatures_of_resolve h, cacheInUse_of_off hoff]
          exact cache_after_of_off hoff _
  | deliver body signature =>
      rw [act_deliver, cacheInUse_of_off hoff]
      split
      · exact cache_after_of_off hoff _
      · exact hoff
  | failNext | together => cases hs

/-- All that is held is what the documents say now, other than at one location that may be stale. -/
def Fresh (e : Engine) (stale : Option Location) : Prop :=
  ∀ q p environment features, e.config.resolve q = .ok (p, environment) →
    e.held? ⟨p.key, environment⟩ = some features → stale ≠ some p.location →
    FeatureSet.ofFetched (.ok (e.source.body? p.location)) = .ok features

theorem Fresh.of_held_none {e : Engine} (h : ∀ key, e.held? key = none) : e.Fresh none := by
  intro q p environment features _ hheld
  rw [h] at hheld
  cases hheld

theorem Fresh.of_elsewhere {e : Engine} {stale : Option Location} (h : e.Fresh stale)
    (hstale : ∀ p ∈ e.config.projects, stale ≠ some p.location) : e.Fresh none := by
  intro q p environment features hresolve hheld _
  exact h q p environment features hresolve hheld (hstale p (Config.mem_of_resolve hresolve))

theorem Fresh.act {e : Engine} (h : e.Fresh none) (hbuilt : e.config.Built) (hc : e.cacheInUse.ByProject)
    (hf : e.source.failures = []) {s : Step} (hs : s.Plain) : (e.act s).2.Fresh s.edited? := by
  intro q p environment features hresolve hheld hstale
  rw [config_act] at hresolve
  rw [body?_act hs.single, Step.edit_of_ne hstale]
  obtain ⟨hbefore, -⟩ | ⟨q', p', environment', hresolve', hkey, -, -, hload⟩ := held?_act hs.single hc hheld
  · exact h q p environment features hresolve hbefore (Option.some_ne_none _).symm
  · obtain ⟨hproject, rfl⟩ := CacheKey.mk.inj hkey
    obtain rfl := hbuilt.eq_of_key (Config.mem_of_resolve hresolve) (Config.mem_of_resolve hresolve') hproject
    rw [← hload]
    exact (Source.load_of_failures_nil hf p.location).1.symm

theorem Fresh.announce {e : Engine} {l : Location} (h : e.Fresh (some l)) (hreach : e.config.Reaching)
    (hc : e.cacheInUse.ByProject) {secret : Secret} (hsecret : e.config.secret = some secret) {s : Step}
    (hs : s.Announces secret l) : (e.act s).2.Fresh none := by
  cases s with
  | deliver body signature =>
      intro q p environment features hresolve hheld _
      rw [config_act] at hresolve
      obtain ⟨hbefore, hkept⟩ := held?_deliver hc hheld
      rw [body?_act_deliver]
      refine h q p environment features hresolve hbefore ?_
      rintro ⟨⟩
      refine hkept p ?_ rfl
      rw [dropped?_of_announces hsecret hs]
      exact hreach q p environment hresolve
  | _ => cases hs

/-- The second engine has the configuration and the documents of the first one, and keeps no features. -/
structure Mirrors (e e' : Engine) : Prop where
  config : e'.config = e.config
  body? : e'.source.body? = e.source.body?
  failures : e.source.failures = []
  failures' : e'.source.failures = []
  off : e'.cache = .off

section Mirrors

variable {e e' : Engine} {secret : Secret}

theorem Mirrors.act (h : e.Mirrors e') {s : Step} (hs : s.Plain) : (e.act s).2.Mirrors (e'.act s).2 where
  config := by rw [config_act, config_act, h.config]
  body? := by rw [body?_act hs.single, body?_act hs.single, h.body?]
  failures := failures_act h.failures hs
  failures' := failures_act h.failures' hs
  off := cache_act_of_off h.off hs

theorem Mirrors.run_mirrors (h : e.Mirrors e') {steps : List Step} (hs : ∀ s ∈ steps, s.Plain) :
    (e.run steps).2.Mirrors (e'.run steps).2 := by
  induction steps generalizing e e' with
  | nil => exact h
  | cons s steps ih =>
      rw [List.forall_mem_cons] at hs
      exact ih (h.act hs.1) hs.2

omit [Markdown] in
theorem Mirrors.held?_eq_none (h : e.Mirrors e') (key : CacheKey) : e'.held? key = none := by
  rw [held?, cacheInUse_of_off h.off]
  rfl

theorem Mirrors.getFeatures (h : e.Mirrors e') (hfresh : e.Fresh none) (q : Query) :
    (e.getFeatures q).1 = (e'.getFeatures q).1 := by
  cases hresolve : e.config.resolve q with
  | error fault =>
      have hresolve' : e'.config.resolve q = .error fault := by rw [h.config, hresolve]
      rw [getFeatures_of_error hresolve, getFeatures_of_error hresolve']
  | ok found =>
      obtain ⟨p, environment⟩ := found
      have hresolve' : e'.config.resolve q = .ok (p, environment) := by rw [h.config, hresolve]
      rw [(getFeatures_of_not_held hresolve' (h.held?_eq_none _)).1,
        (Source.load_of_failures_nil h.failures' _).1, h.body?]
      cases hheld : e.held? ⟨p.key, environment⟩ with
      | some features =>
          rw [getFeatures_of_held hresolve hheld,
            hfresh q p environment features hresolve hheld (Option.some_ne_none _).symm]
      | none => rw [(getFeatures_of_not_held hresolve hheld).1, (Source.load_of_failures_nil h.failures _).1]

omit [Markdown] in
theorem Mirrors.deliver (h : e.Mirrors e') (body : Bytes) (signature : Option String) :
    (e.deliver body signature).1 = (e'.deliver body signature).1 := by
  unfold Engine.deliver
  rw [h.config]
  cases e.config.secret with
  | none => rfl
  | some secret =>
      dsimp only
      cases Webhook.receive secret.expose body signature <;> rfl

theorem Mirrors.reply (h : e.Mirrors e') (hfresh : e.Fresh none) {s : Step} (hs : s.Plain) :
    (e.act s).1.1 = (e'.act s).1.1 := by
  cases s with
  | set | remove => rfl
  | getFeatures q => exact congrArg (fun a => Reply.features a.enabled) (h.getFeatures hfresh q)
  | isEnabled names q => exact congrArg (fun a => Reply.allowed (allowed names a.enabled)) (h.getFeatures hfresh q)
  | deliver body signature => exact congrArg Reply.response (h.deliver body signature)
  | failNext | together => cases hs

theorem Mirrors.reply_of_announces (h : e.Mirrors e') {l : Location} {s : Step} (hs : s.Announces secret l) :
    (e.act s).1.1 = (e'.act s).1.1 := by
  cases s with
  | deliver body signature => exact congrArg Reply.response (h.deliver body signature)
  | _ => cases hs

/-- At most one location is stale at a time, and only until the next step, which announces it. -/
theorem Mirrors.run (hbuilt : e.config.Built) (hreach : e.config.Reaching) (hsecret : e.config.secret = some secret)
    (h : e.Mirrors e') (hc : e.cacheInUse.ByProject) {stale : Option Location} (hfresh : e.Fresh stale)
    {steps : List Step} (hplain : ∀ s ∈ steps, s.Plain) (hannounced : e.config.Announced secret steps)
    (hstale : ∀ l ∈ stale, ∃ a ∈ steps.head?, a.Announces secret l) :
    (e.run steps).1.map (·.reply) = (e'.run steps).1.map (·.reply) := by
  induction steps generalizing e e' stale with
  | nil => rfl
  | cons s steps ih =>
      rw [List.forall_mem_cons] at hplain
      obtain ⟨hs, hsteps⟩ := hplain
      obtain ⟨hnext, hrest⟩ := hannounced
      have hc' := byProject_act (s := s) hc
      rw [← config_act e s] at hrest
      -- What is left to show, once it is known what the step has made stale.
      have key (stale' : Option Location) (hreply : (e.act s).1.1 = (e'.act s).1.1)
          (hfresh' : (e.act s).2.Fresh stale')
          (hstale' : ∀ l ∈ stale', ∃ a ∈ steps.head?, a.Announces secret l) :
          (e.run (s :: steps)).1.map (·.reply) = (e'.run (s :: steps)).1.map (·.reply) := by
        have htail := ih ((config_act e s).symm ▸ hbuilt) ((config_act e s).symm ▸ hreach)
          ((config_act e s).symm ▸ hsecret) (h.act hs) hc' hfresh' hsteps hrest hstale'
        exact List.cons_eq_cons.2 ⟨hreply, htail⟩
      cases stale with
      | some l =>
          obtain ⟨a, ha, hannounces⟩ := hstale l rfl
          cases ha
          exact key none (h.reply_of_announces hannounces) (hfresh.announce hreach hc hsecret hannounces) (by simp)
      | none =>
          have hfresh' := hfresh.act hbuilt hc h.failures hs
          by_cases hproject : ∃ p ∈ e.config.projects, s.edited? = some p.location
          · obtain ⟨p, hp, hedited⟩ := hproject
            refine key s.edited? (h.reply hfresh hs) hfresh' ?_
            intro l hl
            exact hnext l hl ⟨p, hp, Option.some.inj (hedited.symm.trans hl)⟩
          · refine key none (h.reply hfresh hs) (hfresh'.of_elsewhere ?_) (by simp)
            intro p hp hedited
            rw [config_act] at hp
            exact hproject ⟨p, hp, hedited⟩

end Mirrors

omit [Markdown] in
theorem mirrors_ofConfig (config : Config) {source : Source} (hf : source.failures = []) :
    (ofConfig config source).Mirrors ⟨config, .off, source⟩ :=
  ⟨rfl, rfl, hf, hf, rfl⟩

theorem held?_of_loaded {config : Config} (hsecret : config.secret.isSome = true) {source : Source} {q : Query}
    {p : Project} {environment : String} (hresolve : config.resolve q = .ok (p, environment))
    {features : FeatureSet} (hload : (source.load p.location).1 = .ok features) :
    ((ofConfig config source).getFeatures q).2.held? ⟨p.key, environment⟩ = some features := by
  have hget : ((∅ : Memory FeatureSet).get (request p environment) source).1 = .ok features :=
    (Cache.get_of_not_held (c := .memory ∅) (r := request p environment) rfl source).1.trans hload
  refine (held?_getFeatures_of_memory (e := ofConfig config source) hsecret rfl hresolve).trans ?_
  exact congrArg Except.toOption hget

def missed (secret : Secret) (q : Query) (l : Location) : List Step :=
  [.getFeatures q, .remove l] ++ [.announcement secret l]

section Missed

variable {config : Config} {secret : Secret} {q : Query} {p r : Project} {environment : String}

omit [Markdown] in
theorem plain_missed : ∀ s ∈ missed secret q p.location, s.Plain := by
  simp [missed, Step.announcement, Step.Plain]

omit [Markdown] in
theorem announced_missed : config.Announced secret (missed secret q p.location ++ [.getFeatures q]) := by
  refine ⟨?_, ?_, ?_, ?_, trivial⟩
  · intro l hl
    cases hl
  · rintro l ⟨⟩ -
    exact ⟨_, rfl, Step.announces_announcement secret p.location⟩
  · intro l hl
    cases hl
  · intro l hl
    cases hl

theorem body?_missed (e : Engine) : (e.run (missed secret q p.location)).2.source.body? p.location = none := by
  have hremoved : (e.run [.getFeatures q, .remove p.location]).2.source.body? p.location = none := by
    change ((e.run [.getFeatures q]).2.source.remove p.location).body? p.location = none
    rw [Source.body?_remove, if_pos rfl]
  rw [missed, run_snoc, Step.announcement, body?_act_deliver]
  exact hremoved

theorem held?_missed (hsecret : config.secret = some secret) {source : Source}
    (hresolve : config.resolve q = .ok (p, environment))
    (hfind : config.projects.find? (·.isAt p.location.fullName p.location.issue) = some r) (hkey : r.key ≠ p.key)
    {features : FeatureSet} (hload : (source.load p.location).1 = .ok features) :
    ((ofConfig config source).run (missed secret q p.location)).2.held? ⟨p.key, environment⟩ = some features := by
  have hsome : config.secret.isSome = true := by rw [hsecret]; rfl
  have hloaded : ((ofConfig config source).run [.getFeatures q, .remove p.location]).2.held? ⟨p.key, environment⟩ =
      some features := held?_of_loaded hsome hresolve hload
  have hc : ((ofConfig config source).run [.getFeatures q, .remove p.location]).2.cacheInUse.ByProject :=
    byProject_run (byProject_ofConfig config source) _
  have hconfig : ((ofConfig config source).run [.getFeatures q, .remove p.location]).2.config = config :=
    config_run _ _
  have hdropped := dropped?_of_announces ((congrArg Config.secret hconfig).trans hsecret)
    (Step.announces_announcement secret p.location)
  rw [projectAt?, hconfig, hfind] at hdropped
  rw [missed, run_snoc, Step.announcement, held?_act_deliver hc, if_neg, hloaded]
  rintro ⟨r', hr', hproject⟩
  obtain rfl : r = r' := Option.some.inj (hdropped.symm.trans hr')
  exact hkey hproject

theorem enabled_missed {source : Source} (hresolve : config.resolve q = .ok (p, environment))
    (hf : source.failures = []) :
    (((⟨config, .off, source⟩ : Engine).run (missed secret q p.location)).2.getFeatures q).1.enabled =
      .error (.load .noDocument) := by
  have hplain : ∀ s ∈ missed secret q p.location, s.Plain := plain_missed
  have hmirrors := (mirrors_ofConfig config hf).run_mirrors hplain
  have hresolve' : ((⟨config, .off, source⟩ : Engine).run (missed secret q p.location)).2.config.resolve q =
      .ok (p, environment) := by
    rw [config_run]
    exact hresolve
  rw [(getFeatures_of_not_held hresolve' (hmirrors.held?_eq_none _)).1,
    (Source.load_of_failures_nil hmirrors.failures' _).1, body?_missed]
  rfl

end Missed

/-- Who misses an announcement can be told from an engine that keeps nothing. -/
theorem reaching_of_agree {config : Config} (hbuilt : config.Built) {secret : Secret}
    (hsecret : config.secret = some secret) (hspelled : ∀ p ∈ config.projects, p.Spelled)
    (hagree : ∀ (source : Source) (steps : List Step), source.failures = [] → (∀ s ∈ steps, s.Plain) →
      config.Announced secret steps →
      ((ofConfig config source).run steps).1.map (·.reply) =
        ((⟨config, .off, source⟩ : Engine).run steps).1.map (·.reply)) : config.Reaching := by
  intro q p environment hresolve
  have hp := Config.mem_of_resolve hresolve
  have hsound := hbuilt.fault?_project hp
  have hself := (Project.isAt_fullName_iff hsound hsound (hspelled p hp) (hspelled p hp)).2 rfl
  cases hfind : config.projects.find? (·.isAt p.location.fullName p.issue) with
  | none => exact absurd hself (List.find?_eq_none.1 hfind p hp)
  | some r =>
      by_cases hkey : r.key = p.key
      · rw [hbuilt.eq_of_key (List.mem_of_find?_eq_some hfind) hp hkey]
      · exfalso
        let source : Source := ⟨[(p.location, "x")], [], []⟩
        have hload : (source.load p.location).1 = .ok (FeatureSet.ofText "x") := by
          have hbody : source.body? p.location = some "x" := by simp [source, Source.body?]
          rw [(Source.load_of_failures_nil rfl p.location).1, hbody]
          rfl
        have hplain : ∀ s ∈ missed secret q p.location ++ [.getFeatures q], s.Plain := by
          rintro s hs
          rcases List.mem_append.1 hs with hs | hs
          · exact plain_missed s hs
          · rw [List.mem_singleton.1 hs]
            trivial
        have hagreed := hagree source _ rfl hplain announced_missed
        have hreply := (reply_of_run _ _ _).symm.trans ((congrArg (·[3]?) hagreed).trans (reply_of_run _ _ _))
        have henabled : (((ofConfig config source).run (missed secret q p.location)).2.getFeatures q).1.enabled =
            (((⟨config, .off, source⟩ : Engine).run (missed secret q p.location)).2.getFeatures q).1.enabled :=
          Reply.features.inj (Option.some.inj hreply)
        rw [getFeatures_of_held (by rw [config_run]; exact hresolve)
            (held?_missed hsecret hresolve hfind hkey hload),
          enabled_missed hresolve rfl] at henabled
        cases henabled

/-- An engine with a memory answers like one that keeps nothing, in every run in which each edit of a project's
document is announced, just when every project that can be asked about is the first one at its location. -/
theorem agree_iff_first_at_location {config : Config} (hbuilt : config.Built) {secret : Secret}
    (hsecret : config.secret = some secret) (hspelled : ∀ p ∈ config.projects, p.Spelled) :
    (∀ (source : Source) (steps : List Step), source.failures = [] → (∀ s ∈ steps, s.Plain) →
      config.Announced secret steps →
      ((ofConfig config source).run steps).1.map (·.reply) =
        ((⟨config, .off, source⟩ : Engine).run steps).1.map (·.reply)) ↔
      ∀ q p environment, config.resolve q = .ok (p, environment) →
        ∃ before after, config.projects = before ++ p :: after ∧ ∀ r ∈ before, r.location ≠ p.location := by
  rw [← Config.reaching_iff hbuilt hspelled]
  constructor
  · exact reaching_of_agree hbuilt hsecret hspelled
  · intro hreach source steps hf hplain hannounced
    exact (mirrors_ofConfig config hf).run hbuilt hreach hsecret (byProject_ofConfig config source)
      (Fresh.of_held_none (held?_ofConfig config source)) hplain hannounced (by simp)

end

def twins : Config :=
  ⟨[(Project.ofIssue "acme/web" 1).withKey "a", (Project.ofIssue "acme/web" 1).withKey "b"], some ⟨"s3cret"⟩, none,
    false⟩

theorem twins_disagree :
    ¬∀ (source : Source) (steps : List Step), source.failures = [] → (∀ s ∈ steps, s.Plain) →
      twins.Announced ⟨"s3cret"⟩ steps →
      ((ofConfig twins source).run steps).1.map (·.reply) =
        ((⟨twins, .off, source⟩ : Engine).run steps).1.map (·.reply) := by
  have hbuilt : twins.Built := ⟨⟨twins.projects, twins.secret, none, false⟩, rfl⟩
  have hspelled : ∀ p ∈ twins.projects, p.Spelled := by
    intro p hp
    rcases List.mem_pair.1 hp with rfl | rfl
    · exact (Project.spelled_ofIssue _ _).withKey _
    · exact (Project.spelled_ofIssue _ _).withKey _
  intro h
  obtain ⟨before, after, hsplit, hbefore⟩ := (agree_iff_first_at_location hbuilt rfl hspelled).1 h
    ⟨some "b", some "production", ∅⟩ ((Project.ofIssue "acme/web" 1).withKey "b") "production" rfl
  cases before with
  | nil =>
      have hkey := congrArg Project.key (List.cons.inj hsplit).1
      exact absurd hkey (by decide +kernel)
  | cons r before =>
      obtain rfl := (List.cons.inj hsplit).1
      exact hbefore _ List.mem_cons_self rfl

end Engine

end FlagSheet
