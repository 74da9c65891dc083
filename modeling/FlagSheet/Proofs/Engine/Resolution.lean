import FlagSheet.Proofs.Engine.Delivery
import FlagSheet.Proofs.Engine.OwnKey
import FlagSheet.Proofs.Engine.Staleness

namespace FlagSheet

open Text

namespace Text

theorem trim_eq_nil_iff {cs : List Char} : trim cs = [] ↔ cs.all isBlank = true := by
  rw [trim, trimEnd, List.reverse_eq_nil_iff, List.dropWhile_eq_nil_iff, List.all_eq_true]
  constructor
  · intro h
    have hstart : trimStart cs = [] := by
      cases hcs : trimStart cs with
      | nil => rfl
      | cons c rest =>
          have hc : isBlank c = true := h c (by simp [hcs])
          rw [head?_dropWhile_isBlank cs c (by rw [← trimStart, hcs]; rfl)] at hc
          cases hc
    exact List.dropWhile_eq_nil_iff.1 hstart
  · intro h c hc
    exact h c ((List.dropWhile_sublist _).mem (List.mem_reverse.1 hc))

theorem trimmed_eq_empty_iff {s : String} : trimmed s = "" ↔ allBlank s = true := by
  rw [trimmed, ← String.toList_inj, String.toList_ofList, allBlank, ← trim_eq_nil_iff]
  rfl

end Text

def LeftOpen (name : Option String) : Prop := ∀ text ∈ name, trimmed text = ""

theorem bind_content?_eq_none_iff {name : Option String} : name.bind content? = none ↔ LeftOpen name := by
  cases name with
  | none => simp [LeftOpen]
  | some text => simp [LeftOpen, content?, trimmed_eq_empty_iff]

theorem bind_content?_eq_some_iff {name : Option String} {key : String} :
    name.bind content? = some key ↔ ∃ text, name = some text ∧ trimmed text ≠ "" ∧ trimmed text = key := by
  cases name with
  | none => simp
  | some text => simp [content?, trimmed_eq_empty_iff]

theorem Project.spelling_trimmed (text : String) : spelling (trimmed text) = spelling text := by
  rw [spelling, spelling, trimmed, String.toList_ofList, trim_of_tight (tight_trim _)]

namespace Config

variable {c : Config} {q : Query}

/-- The project that a query of this name is about: the one under that key, or else the only one there is. -/
inductive About (c : Config) : Option String → Project → Prop where
  | named {text : String} {p : Project} (hgiven : trimmed text ≠ "") (hp : p ∈ c.projects)
      (hkey : p.key = Project.spelling text) : About c (some text) p
  | only {name : Option String} {p : Project} (hopen : LeftOpen name) (hp : c.projects = [p]) : About c name p

/-- Why a query is refused. The project is made out before the environment is. -/
inductive Refuses (c : Config) (q : Query) : QueryError → Prop where
  | projectNotFound {text : String} (hproject : q.project = some text) (hgiven : trimmed text ≠ "")
      (hnone : ∀ p ∈ c.projects, p.key ≠ Project.spelling text) : Refuses c q (.projectNotFound (trimmed text))
  | ambiguousProject (hopen : LeftOpen q.project) (hcount : c.projects.length ≠ 1) : Refuses c q .ambiguousProject
  | missingEnvironment {p : Project} (hp : c.About q.project p) (hopen : LeftOpen q.environment)
      (hdefault : c.defaultEnvironment = none) : Refuses c q .missingEnvironment

theorem resolveProject_of_open {name : Option String} (h : LeftOpen name) :
    c.resolveProject name = match c.projects with
      | [p] => .ok p
      | _ => .error .ambiguousProject := by
  unfold resolveProject
  split
  · next hkey =>
      rw [bind_content?_eq_none_iff.2 h] at hkey
      cases hkey
  · rfl

theorem open_or_given (name : Option String) : LeftOpen name ∨ ∃ text, name = some text ∧ trimmed text ≠ "" := by
  cases hname : name.bind content? with
  | none => exact .inl (bind_content?_eq_none_iff.1 hname)
  | some key =>
      obtain ⟨text, htext, hgiven, -⟩ := bind_content?_eq_some_iff.1 hname
      exact .inr ⟨text, htext, hgiven⟩

theorem resolveProject_of_given {text : String} (h : trimmed text ≠ "") :
    c.resolveProject (some text) = match c.projects.find? (·.key = Project.spelling text) with
      | some p => .ok p
      | none => .error (.projectNotFound (trimmed text)) := by
  rw [resolveProject, bind_content?_eq_some_iff.2 ⟨text, rfl, h, rfl⟩, ← Project.spelling_trimmed text]
  rfl

theorem Built.resolveProject_eq_ok_iff (hc : c.Built) {name : Option String} {p : Project} :
    c.resolveProject name = .ok p ↔ c.About name p := by
  constructor
  · intro h
    obtain hopen | ⟨text, rfl, hgiven⟩ := open_or_given name
    · rw [resolveProject_of_open hopen] at h
      split at h
      · next hprojects =>
          cases h
          exact .only hopen hprojects
      · cases h
    · rw [resolveProject_of_given hgiven] at h
      split at h
      · next hfind =>
          cases h
          exact .named hgiven (List.mem_of_find?_eq_some hfind) (by simpa using List.find?_some hfind)
      · cases h
  · intro h
    cases h with
    | named hgiven hp hkey =>
        rw [resolveProject_of_given hgiven, show c.projects.find? _ = some p from hc.project?_key hp hkey.symm]
    | only hopen hp => rw [resolveProject_of_open hopen, hp]

theorem refuses_of_resolveProject {fault : QueryError} (h : c.resolveProject q.project = .error fault) :
    c.Refuses q fault := by
  obtain hopen | ⟨text, hname, hgiven⟩ := open_or_given q.project
  · rw [resolveProject_of_open hopen] at h
    split at h
    · cases h
    · next hcount =>
        cases h
        refine .ambiguousProject hopen fun hone => ?_
        obtain ⟨p, hp⟩ := List.length_eq_one_iff.1 hone
        exact hcount p hp
  · rw [hname, resolveProject_of_given hgiven] at h
    split at h
    · cases h
    · next hfind =>
        cases h
        exact .projectNotFound hname hgiven (by simpa using hfind)

theorem resolveEnvironment_eq_error_iff {name : Option String} {fault : QueryError} :
    c.resolveEnvironment name = .error fault ↔
      LeftOpen name ∧ c.defaultEnvironment = none ∧ fault = .missingEnvironment := by
  rw [resolveEnvironment, ← bind_content?_eq_none_iff, ← and_assoc, ← Option.or_eq_none_iff]
  cases (name.bind content?).or c.defaultEnvironment <;> simp [eq_comm]

theorem Built.resolve_eq_error_iff (hc : c.Built) {fault : QueryError} :
    c.resolve q = .error fault ↔ c.Refuses q fault := by
  rw [resolve]
  constructor
  · intro h
    cases hproject : c.resolveProject q.project with
    | error fault =>
        rw [hproject] at h
        cases h
        exact refuses_of_resolveProject hproject
    | ok p =>
        rw [hproject] at h
        cases henvironment : c.resolveEnvironment q.environment with
        | ok environment => simp [henvironment, Except.map] at h
        | error fault =>
            simp only [henvironment, Except.map] at h
            cases h
            obtain ⟨hopen, hdefault, rfl⟩ := resolveEnvironment_eq_error_iff.1 henvironment
            exact .missingEnvironment (hc.resolveProject_eq_ok_iff.1 hproject) hopen hdefault
  · intro h
    cases h with
    | projectNotFound hproject hgiven hnone =>
        rw [hproject, resolveProject_of_given hgiven, List.find?_eq_none.2 (by simpa using hnone)]
    | ambiguousProject hopen hcount =>
        have hproject : c.resolveProject q.project = .error .ambiguousProject := by
          rw [resolveProject_of_open hopen]
          split
          · next hone => exact absurd (congrArg List.length hone) hcount
          · rfl
        rw [hproject]
    | missingEnvironment hp hopen hdefault =>
        rw [hc.resolveProject_eq_ok_iff.2 hp, resolveEnvironment_eq_error_iff.2 ⟨hopen, hdefault, rfl⟩]
        rfl

theorem Refuses.ne_load {fault : QueryError} (h : c.Refuses q fault) (failure : LoadError) : fault ≠ .load failure := by
  cases h <;> exact nofun

end Config

namespace Engine

section

variable {e : Engine} {q : Query}

theorem allowed_eq_error_iff {names : List String} {answered : Except QueryError SlugSet} {fault : QueryError} :
    allowed names answered = .error fault ↔ answered = .error fault ∧ fault ≠ .load .noDocument := by
  unfold allowed
  split
  · simp
  · simp only [reduceCtorEq, Except.error.injEq, false_iff, not_and, not_not]
    exact fun h => h.symm
  · next hne =>
      simp only [Except.error.injEq]
      constructor
      · rintro rfl
        exact ⟨rfl, hne⟩
      · exact fun h => h.1

variable [Markdown]

theorem step_getFeatures_of_error {fault : QueryError} (h : e.config.resolve q = .error fault) :
    e.step (.getFeatures q) = (⟨.features (.error fault), [], [], e.cache.size⟩, e) := by
  simp only [step, act, getFeatures_of_error h, List.drop_length]

/-- A query is refused for what it leaves open or names wrongly. Nothing is fetched then, no predicate is called, and
the engine stays as it was. Every other query is about one project, and has features for an answer or the failure to get
its document just then. Whoever asks for the state of features by name gets the same errors, but that there is none where
there is no document. -/
theorem getFeatures_refused (hbuilt : e.config.Built) (q : Query) :
    let o := (e.step (.getFeatures q)).1
    (∀ fault, e.config.Refuses q fault ↔ o.reply = .features (.error fault) ∧ ∀ failure, fault ≠ .load failure) ∧
    (∀ fault, e.config.Refuses q fault → o.fetched = [] ∧ o.calls = [] ∧ (e.step (.getFeatures q)).2 = e) ∧
    ((∀ fault, ¬e.config.Refuses q fault) → ∃ p, e.config.About q.project p ∧
      ((∃ enabled, o.reply = .features (.ok enabled)) ∨ ∃ failure, o.reply = .features (.error (.load failure)) ∧
        FeatureSet.ofFetched (e.source.fetch p.location).1 = .error failure)) ∧
    ∀ names,
      let o' := (e.step (.isEnabled names q)).1
      (∀ fault, o'.reply = .allowed (.error fault) ↔
        o.reply = .features (.error fault) ∧ fault ≠ .load .noDocument) ∧
      (o.reply = .features (.error (.load .noDocument)) → o'.reply = .allowed (.ok false)) ∧
      o'.fetched = o.fetched ∧ o'.calls = o.calls ∧ (e.step (.isEnabled names q)).2 = (e.step (.getFeatures q)).2 := by
  intro o
  have hreply {answered : Except QueryError SlugSet} :
      o.reply = .features answered ↔ (e.getFeatures q).1.enabled = answered := by
    change Reply.features (e.getFeatures q).1.enabled = _ ↔ _
    rw [Reply.features.injEq]
  refine ⟨fun fault => ?_, fun fault h => ?_, fun h => ?_, fun names => ?_⟩
  · constructor
    · intro h
      have hstep := step_getFeatures_of_error (hbuilt.resolve_eq_error_iff.2 h)
      exact ⟨congrArg (fun t : Outcome × Engine => t.1.reply) hstep, h.ne_load⟩
    · rintro ⟨hfault, hne⟩
      rw [hreply] at hfault
      cases hresolve : e.config.resolve q with
      | error found =>
          rw [getFeatures_of_error hresolve] at hfault
          cases hfault
          exact hbuilt.resolve_eq_error_iff.1 hresolve
      | ok about =>
          obtain ⟨-, failure, hload, -⟩ := fetched_of_failure hresolve hfault
          exact absurd hload (hne failure)
  · change (e.step (.getFeatures q)).1.fetched = [] ∧ (e.step (.getFeatures q)).1.calls = [] ∧ _
    rw [step_getFeatures_of_error (hbuilt.resolve_eq_error_iff.2 h)]
    exact ⟨rfl, rfl, rfl⟩
  · cases hresolve : e.config.resolve q with
    | error fault => exact absurd (hbuilt.resolve_eq_error_iff.1 hresolve) (h fault)
    | ok about =>
        refine ⟨about.1, hbuilt.resolveProject_eq_ok_iff.1 (Config.resolveProject_of_resolve hresolve), ?_⟩
        cases hanswer : (e.getFeatures q).1.enabled with
        | ok enabled => exact .inl ⟨enabled, hreply.2 hanswer⟩
        | error fault =>
            obtain ⟨-, failure, rfl, hfetch⟩ := fetched_of_failure hresolve hanswer
            exact .inr ⟨failure, hreply.2 hanswer, hfetch⟩
  · have hallowed {answered : Except QueryError Bool} : (e.step (.isEnabled names q)).1.reply = .allowed answered ↔
        allowed names (e.getFeatures q).1.enabled = answered := by
      change Reply.allowed (allowed names (e.getFeatures q).1.enabled) = _ ↔ _
      rw [Reply.allowed.injEq]
    refine ⟨fun fault => ?_, fun h => ?_, rfl, rfl, rfl⟩
    · rw [hreply, hallowed, allowed_eq_error_iff]
    · rw [hreply] at h
      rw [hallowed, h]
      rfl

end

theorem getFeatures_refused_neighbours :
    let e := ((ofConfig neighbours .empty).run askedOfBoth).2
    let named : Query := ⟨some " Acme/API/3\n", none, ∅⟩
    let unnamed : Query := ⟨some "\t", some "staging", ∅⟩
    e.config.Built ∧
      (e.step (.getFeatures named)).1.reply = .features (.error (.projectNotFound "Acme/API/3")) ∧
      (e.step (.isEnabled ["login"] unnamed)).1.reply = .allowed (.error .ambiguousProject) ∧
      (e.step (.getFeatures unnamed)).2 = e := by
  intro e named unnamed
  have hconfig : e.config = neighbours := config_run _ _
  have hbuilt : e.config.Built := by
    rw [hconfig]
    exact ⟨⟨neighbours.projects, neighbours.secret, neighbours.defaultEnvironment, false⟩, rfl⟩
  have htrimmed : trimmed " Acme/API/3\n" = "Acme/API/3" := by decide +kernel
  have hnamed : e.config.Refuses named (.projectNotFound "Acme/API/3") := by
    rw [hconfig, ← htrimmed]
    exact .projectNotFound rfl (by decide +kernel) (by decide +kernel)
  have hunnamed : e.config.Refuses unnamed .ambiguousProject := by
    rw [hconfig]
    exact .ambiguousProject (by rintro _ ⟨⟩; decide +kernel) (by decide)
  have hreply := ((getFeatures_refused hbuilt unnamed).1 _).1 hunnamed
  refine ⟨hbuilt, (((getFeatures_refused hbuilt named).1 _).1 hnamed).1, ?_, ?_⟩
  · exact (((getFeatures_refused hbuilt unnamed).2.2.2 ["login"]).1 _).2 ⟨hreply.1, hreply.2 _⟩
  · exact ((getFeatures_refused hbuilt unnamed).2.1 _ hunnamed).2.2

end Engine

end FlagSheet
