import FlagSheet.Markup.Reader
import FlagSheet.Proofs.Engine.Step
import FlagSheet.Proofs.Webhook.Payload
import FlagSheet.Proofs.Webhook.Receive

namespace FlagSheet

/-- The delivery is rightly signed, and this project is the first one that its event is about. -/
def Config.Selects (config : Config) (body : Bytes) (signature : Option String) (p : Project) : Prop :=
  ∃ secret event, config.secret = some secret ∧ signature = some (Signature.compute secret.expose body) ∧
    IssueEvent.parse body = .ok event ∧ config.projects.find? (·.isAt event.repository event.issue) = some p

namespace Engine

section

variable {e : Engine} {secret : Secret} {body : Bytes} {signature : Option String}

theorem deliver_without_secret {P : Provider} {e : Engine P} (h : e.config.secret = none) (body : Bytes) (signature : Option String) :
    e.deliver body signature = (.disabled, e) := by
  rw [deliver, h]

theorem deliver_unsigned (hsecret : e.config.secret = some secret)
    (h : signature ≠ some (Signature.compute secret.expose body)) :
    e.deliver body signature = (.unauthorized, e) := by
  rw [deliver, hsecret]
  obtain hreceive | hreceive := Webhook.receive_unsigned h <;> simp only [hreceive] <;> rfl

theorem deliver_signed (hsecret : e.config.secret = some secret) (body : Bytes) :
    e.deliver body (some (Signature.compute secret.expose body)) =
      match IssueEvent.parse body with
      | .error _ => (.badPayload, e)
      | .ok event => (.accepted, e.announce event) := by
  rw [deliver, hsecret]
  simp only [Webhook.receive_signed]
  cases IssueEvent.parse body <;> rfl

theorem answer_iff (hsecret : e.config.secret = some secret) (body : Bytes) (signature : Option String) :
    let response := (e.deliver body signature).1
    let signed := signature = some (Signature.compute secret.expose body)
    (response.status = 401 ↔ ¬signed) ∧
      (response.status = 400 ↔ signed ∧ ∀ event, IssueEvent.parse body ≠ .ok event) ∧
      (response.status = 200 ↔ signed ∧ ∃ event, IssueEvent.parse body = .ok event) ∧
      (response.status = 200 → response.body = .object [("success", .bool true)]) := by
  by_cases hsigned : signature = some (Signature.compute secret.expose body)
  · subst hsigned
    rw [deliver_signed hsecret]
    cases IssueEvent.parse body <;> simp [Response.status, Response.body]
  · rw [deliver_unsigned hsecret hsigned]
    simp [Response.status, hsigned]

theorem dropped?_eq_some_iff {p : Project} :
    e.dropped? (.deliver body signature) = some p ↔ e.config.Selects body signature p := by
  constructor
  · intro h
    obtain ⟨secret, hsecret, h⟩ := Option.bind_eq_some_iff.1 h
    obtain ⟨event, hevent, hp⟩ := Option.bind_eq_some_iff.1 h
    by_cases hsigned : signature = some (Signature.compute secret.expose body)
    · subst hsigned
      rw [Webhook.receive_signed] at hevent
      cases hparse : IssueEvent.parse body with
      | error fault => rw [hparse] at hevent; cases hevent
      | ok found =>
          rw [hparse] at hevent
          cases hevent
          exact ⟨secret, event, hsecret, rfl, hparse, hp⟩
    · obtain hreceive | hreceive := Webhook.receive_unsigned hsigned <;> rw [hreceive] at hevent <;> cases hevent
  · rintro ⟨secret, event, hsecret, rfl, hparse, hp⟩
    simp only [dropped?, hsecret, Webhook.receive_signed, hparse, Option.bind_eq_bind, Option.bind_some]
    exact hp

theorem caches_of_selects {p : Project} (h : e.config.Selects body signature p) : e.caches = true := by
  obtain ⟨secret, event, hsecret, -⟩ := h
  rw [caches, hsecret, Option.isSome_some]

variable [Markdown]

theorem act_deliver_of_selects {p : Project} (h : e.config.Selects body signature p) :
    (e.act (.deliver body signature)).2.source = e.source ∧
      (e.act (.deliver body signature)).2.cacheInUse = e.cacheInUse.invalidate p.key := by
  rw [act_deliver, dropped?_eq_some_iff.2 h]
  refine ⟨rfl, ?_⟩
  rw [cacheInUse_after, if_pos (caches_of_selects h)]

theorem act_deliver_of_not_selects (h : ∀ p, ¬e.config.Selects body signature p) :
    (e.act (.deliver body signature)).2 = e := by
  have hnone : e.dropped? (.deliver body signature) = none := by
    rw [Option.eq_none_iff_forall_ne_some]
    intro p hp
    exact h p (dropped?_eq_some_iff.1 hp)
  rw [act_deliver, hnone]

theorem eraseIdx_run {before : List Step} {s : Step} (h : ((e.run before).2.act s).2 = (e.run before).2)
    (after : List Step) :
    (e.run (before ++ s :: after)).1.eraseIdx before.length = (e.run (before ++ after)).1 := by
  have hrest : ((e.run before).2.run (s :: after)).1.eraseIdx 0 = ((e.run before).2.run after).1 := by
    change (((e.run before).2.act s).2.run after).1 = _
    rw [h]
  rw [run_append, run_append, List.eraseIdx_append_of_length_le (Nat.le_of_eq (length_outcomes e before)),
    length_outcomes, Nat.sub_self, hrest]

/-- A delivery is answered by what it is: where there is no secret, and where it is signed in another way or tells of no
event, nothing comes of it. An event takes away the entries of the first project that it is about, with all other
entries left as they are, and where there is no such project, the run goes on as if the delivery had not been. -/
theorem deliver_run {config : Config} {cache : Cache FeatureSet} (hc : cache.ByProject) (source : Source)
    (before : List Step) (body : Bytes) (signature : Option String) :
    let start : Engine := ⟨config, cache, source⟩
    let e := (start.run before).2
    let response := (e.deliver body signature).1
    let e' := (e.deliver body signature).2
    (config.secret = none → response.status = 200 ∧ response.body = .object [("error", .string "webhook disabled")]) ∧
    (∀ secret, config.secret = some secret →
      let signed := signature = some (Signature.compute secret.expose body)
      (response.status = 401 ↔ ¬signed) ∧
      (response.status = 400 ↔ signed ∧ ∀ event, IssueEvent.parse body ≠ .ok event) ∧
      (response.status = 200 ↔ signed ∧ ∃ event, IssueEvent.parse body = .ok event) ∧
      (response.status = 200 → response.body = .object [("success", .bool true)])) ∧
    (∀ p, config.Selects body signature p → e'.config = e.config ∧ e'.source = e.source ∧
      ∀ key, e'.cacheInUse.living? key = if key.project = p.key then none else e.cacheInUse.living? key) ∧
    ((∀ p, ¬config.Selects body signature p) → e' = e ∧
      ∀ after, (start.run (before ++ .deliver body signature :: after)).1.eraseIdx before.length =
        (start.run (before ++ after)).1) := by
  intro start e response e'
  have hconfig : e.config = config := config_run start before
  have hstart : start.cacheInUse.ByProject := by
    rw [cacheInUse]
    split
    · exact hc
    · exact .off
  refine ⟨?_, ?_, ?_, ?_⟩
  · intro hsecret
    have hdeliver : e.deliver body signature = (.disabled, e) := deliver_without_secret (hconfig ▸ hsecret) _ _
    change (e.deliver body signature).1.status = 200 ∧ (e.deliver body signature).1.body = _
    rw [hdeliver]
    exact ⟨rfl, rfl⟩
  · intro secret hsecret
    exact answer_iff (hconfig ▸ hsecret) body signature
  · intro p hp
    obtain ⟨hsource, hcache⟩ := act_deliver_of_selects (e := e) (hconfig ▸ hp)
    refine ⟨config_act e (.deliver body signature), hsource, ?_⟩
    intro key
    change (e.act (.deliver body signature)).2.cacheInUse.living? key = _
    rw [hcache, Cache.living?_invalidate (byProject_run hstart before)]
  · intro hp
    have hsame : (e.act (.deliver body signature)).2 = e := act_deliver_of_not_selects (hconfig ▸ hp)
    exact ⟨hsame, eraseIdx_run hsame⟩

end

def neighbours : Config :=
  ⟨[.ofIssue "acme/web" 1, .ofIssue "acme/web" 2], some ⟨"s3cret"⟩, some "production", false⟩

def askedOfBoth : List Step :=
  [.set ⟨"acme", "web", 1⟩ "Flags", .getFeatures ⟨some "acme/web/1", none, ∅⟩,
    .set ⟨"acme", "web", 2⟩ "Flags", .getFeatures ⟨some "acme/web/2", none, ∅⟩]

theorem deliver_run_neighbours :
    let e := ((⟨neighbours, .memory ∅, .empty⟩ : Engine).run askedOfBoth).2
    let body := IssueEvent.payload "acme/web" 1
    let e' := (e.deliver body (some (Signature.compute "s3cret" body))).2
    Cache.ByProject (.memory (∅ : Memory FeatureSet)) ∧
      e.held? ⟨"acme/web/1", "production"⟩ = some (.ofText "Flags") ∧
      e'.cacheInUse.living? ⟨"acme/web/1", "production"⟩ = none ∧
      e'.cacheInUse.living? ⟨"acme/web/2", "production"⟩ =
        some ⟨⟨"acme/web/2", "production"⟩, ["acme/web/2"], some (.ofText "Flags"), true⟩ := by
  intro e body e'
  have hselects : neighbours.Selects body (some (Signature.compute "s3cret" body)) (.ofIssue "acme/web" 1) :=
    ⟨⟨"s3cret"⟩, _, rfl, rfl, IssueEvent.parse_payload _ _, rfl⟩
  obtain ⟨-, -, hentries⟩ :=
    (deliver_run .empty .empty askedOfBoth body (some (Signature.compute "s3cret" body))).2.2.1 _ hselects
  refine ⟨.empty, rfl, ?_, ?_⟩
  · exact (hentries _).trans (if_pos rfl)
  · exact (hentries _).trans ((if_neg (by decide +kernel)).trans rfl)

end Engine

end FlagSheet
