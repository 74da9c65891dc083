import FlagSheet.Proofs.Config
import FlagSheet.Proofs.Location
import Mathlib.Data.List.Induction
import Mathlib.Data.List.TakeWhile

namespace FlagSheet

namespace Project

variable {p : Project} {earlier : List Project} {e : ConfigError}

def Located (p : Project) : Prop :=
  ∃ owner name, p.repository.toList = owner ++ '/' :: name ∧ (owner ≠ [] ∧ '/' ∉ owner) ∧ name ≠ [] ∧ '/' ∉ name

/-- The fault of a project that stands behind these. Of several faults it is the first one. -/
inductive Faulty (earlier : List Project) (p : Project) : ConfigError → Prop where
  | repository (h : ¬p.Located) : Faulty earlier p (.invalidRepository p.repository)
  | issue (h : p.Located) (hissue : p.issue = 0) : Faulty earlier p (.invalidIssue p.repository p.issue)
  | key (h : p.Located) (hissue : p.issue ≠ 0) (hkey : ∃ r ∈ earlier, r.key = p.key) :
      Faulty earlier p (.duplicateProject p.key)

theorem owner_name_of_repository {owner name : List Char} (h : p.repository.toList = owner ++ '/' :: name)
    (howner : '/' ∉ owner) : p.owner = owner ∧ p.name = name := by
  have hpass : ∀ c ∈ owner, decide (c ≠ '/') = true := by
    intro c hc
    rw [decide_eq_true_eq]
    rintro rfl
    exact howner hc
  rw [Project.owner, Project.name, h, List.takeWhile_append_of_pos hpass, List.dropWhile_append_of_pos hpass]
  simp

theorem hasRepository_iff : p.hasRepository = true ↔ p.Located := by
  constructor
  · intro h
    simp only [hasRepository, Bool.and_eq_true, Bool.not_eq_true', List.isEmpty_eq_false_iff] at h
    obtain ⟨⟨howner, hname⟩, hslash⟩ := h
    refine ⟨p.owner, p.name, repository_of_name hname, ⟨howner, ?_⟩, hname, by simpa using hslash⟩
    intro hmem
    simpa using List.mem_takeWhile_imp hmem
  · rintro ⟨owner, name, hrepository, ⟨howner, hslash⟩, hname, hslash'⟩
    obtain ⟨rfl, rfl⟩ := owner_name_of_repository hrepository hslash
    simp [hasRepository, howner, hname, hslash']

theorem fault?_of_not_located (h : ¬p.Located) : p.fault? = some (.invalidRepository p.repository) := by
  rw [fault?, if_neg (mt hasRepository_iff.1 h)]

theorem fault?_of_located (h : p.Located) :
    p.fault? = if p.issue = 0 then some (.invalidIssue p.repository p.issue) else none := by
  rw [fault?, if_pos (hasRepository_iff.2 h)]

theorem fault?_eq_none_iff : p.fault? = none ↔ p.Located ∧ p.issue ≠ 0 := by
  by_cases h : p.Located
  · rw [fault?_of_located h]
    simp [h]
  · rw [fault?_of_not_located h]
    simp [h]

end Project

namespace Settings

variable {ps : List Project} {e : ConfigError}

/-- Projects without a fault, each by itself and side by side. -/
structure Sound (ps : List Project) : Prop where
  located : ∀ p ∈ ps, p.Located
  numbered : ∀ p ∈ ps, p.issue ≠ 0
  distinct : (ps.map Project.key).Nodup

theorem fault?_append (seen : List String) (ps qs : List Project) :
    fault? seen (ps ++ qs) = (fault? seen ps).or (fault? ((ps.map Project.key).reverse ++ seen) qs) := by
  induction ps generalizing seen with
  | nil => rfl
  | cons p ps ih =>
      rw [List.cons_append, fault?, fault?]
      cases p.fault? with
      | some fault => rfl
      | none =>
          dsimp only
          split
          · rfl
          · rw [ih, List.map_cons, List.reverse_cons, List.append_assoc, List.singleton_append]

theorem fault?_of_faulty {earlier : List Project} {p : Project} (h : p.Faulty earlier e) (ps : List Project) :
    fault? (earlier.map Project.key).reverse (p :: ps) = some e := by
  rw [fault?]
  cases h with
  | repository h => rw [Project.fault?_of_not_located h]
  | issue h hissue => rw [Project.fault?_of_located h, if_pos hissue]
  | key h hissue hkey =>
      rw [Project.fault?_of_located h, if_neg hissue]
      exact if_pos (by simpa using hkey)

theorem fault?_singleton (earlier : List Project) (p : Project) :
    (∃ e, p.Faulty earlier e) ∨ fault? (earlier.map Project.key).reverse [p] = none := by
  by_cases hlocated : p.Located
  · by_cases hissue : p.issue = 0
    · exact .inl ⟨_, .issue hlocated hissue⟩
    · by_cases hkey : ∃ r ∈ earlier, r.key = p.key
      · exact .inl ⟨_, .key hlocated hissue hkey⟩
      · refine .inr ?_
        rw [fault?, Project.fault?_of_located hlocated, if_neg hissue]
        exact if_neg (by simpa using hkey)
  · exact .inl ⟨_, .repository hlocated⟩

theorem fault?_of_split {before after : List Project} {p : Project} (hbefore : fault? [] before = none)
    (h : p.Faulty before e) : fault? [] (before ++ p :: after) = some e := by
  rw [fault?_append, hbefore, Option.none_or, List.append_nil, fault?_of_faulty h]

theorem split_of_fault? (h : fault? [] ps = some e) :
    ∃ before p after, ps = before ++ p :: after ∧ fault? [] before = none ∧ p.Faulty before e := by
  induction ps using List.reverseRecOn with
  | nil => cases h
  | append_singleton ps p ih =>
      cases hps : fault? [] ps with
      | some fault =>
          rw [fault?_append, hps, Option.some_or] at h
          obtain ⟨before, r, after, rfl, hbefore, hfaulty⟩ := ih (hps.trans h)
          exact ⟨before, r, after ++ [p], by simp, hbefore, hfaulty⟩
      | none =>
          rw [fault?_append, hps, Option.none_or, List.append_nil] at h
          obtain ⟨fault, hfaulty⟩ | hnone := fault?_singleton ps p
          · rw [fault?_of_faulty hfaulty] at h
            obtain rfl : fault = e := Option.some.inj h
            exact ⟨ps, p, [], rfl, hps, hfaulty⟩
          · rw [hnone] at h
            cases h

theorem fault?_eq_none_iff : fault? [] ps = none ↔ Sound ps := by
  constructor
  · intro h
    obtain ⟨hsound, hnodup⟩ := fault?_eq_none h
    exact ⟨fun p hp => (Project.fault?_eq_none_iff.1 (hsound p hp).1).1,
      fun p hp => (Project.fault?_eq_none_iff.1 (hsound p hp).1).2, hnodup⟩
  · intro h
    rw [Option.eq_none_iff_forall_ne_some]
    intro fault hfault
    obtain ⟨before, p, after, rfl, -, hfaulty⟩ := split_of_fault? hfault
    have hp : p ∈ before ++ p :: after := by simp
    cases hfaulty with
    | repository hnot => exact hnot (h.located p hp)
    | issue _ hissue => exact h.numbered p hp hissue
    | key _ _ hkey =>
        obtain ⟨r, hr, hkey⟩ := hkey
        have hdistinct := h.distinct
        rw [List.map_append, List.map_cons, List.nodup_append] at hdistinct
        exact hdistinct.2.2 _ (List.mem_map_of_mem hr) _ List.mem_cons_self hkey

theorem build_of_fault? (s : Settings) (h : s.projects ≠ []) :
    s.build = match fault? [] s.projects with
      | some e => .error e
      | none => .ok ⟨s.projects, s.secret.filter (!·.isBlank), s.defaultEnvironment.bind Text.content?, s.logDocuments⟩ := by
  have hnonempty : ¬s.projects.isEmpty := by simpa using h
  exact if_neg hnonempty

theorem exists_build_iff (s : Settings) : (∃ c, s.build = .ok c) ↔ s.projects ≠ [] ∧ Sound s.projects := by
  rw [← fault?_eq_none_iff]
  by_cases h : s.projects = []
  · simp [build, h]
  · rw [build_of_fault? s h]
    cases fault? [] s.projects <;> simp [h]

theorem build_eq_error_iff (s : Settings) (e : ConfigError) :
    s.build = .error e ↔ s.projects = [] ∧ e = .noProjects ∨ s.projects ≠ [] ∧ fault? [] s.projects = some e := by
  by_cases h : s.projects = []
  · simp [build, h, eq_comm]
  · rw [build_of_fault? s h]
    cases fault? [] s.projects <;> simp [h]

theorem filter_key (h : (ps.map Project.key).Nodup) (key : String) :
    ps.filter (·.key = key) = (ps.find? (·.key = key)).toList := by
  induction ps with
  | nil => rfl
  | cons p ps ih =>
      rw [List.map_cons, List.nodup_cons] at h
      by_cases hp : p.key = key
      · have hrest : ps.filter (·.key = key) = [] := by
          rw [List.filter_eq_nil_iff]
          intro r hr hkey
          exact h.1 (hp.trans (of_decide_eq_true hkey).symm ▸ List.mem_map_of_mem hr)
        rw [List.filter_cons_of_pos (by simpa using hp), List.find?_cons_of_pos (by simpa using hp), hrest]
        rfl
      · rw [List.filter_cons_of_neg (by simpa using hp), List.find?_cons_of_neg (by simpa using hp), ih h.2]

/-- Settings are built just when they name a project and their projects have no fault. Otherwise the first fault is
reported, which is that of a project behind others without any. What has been built has the projects in their order, finds
each under its own key alone, and tells where the document of each lies, which its repository is made of. -/
theorem build_verdict (s : Settings) :
    ((∃ c, s.build = .ok c) ↔ s.projects ≠ [] ∧ Sound s.projects) ∧
    (∀ e, s.build = .error e ↔ s.projects = [] ∧ e = .noProjects ∨
      ∃ before p after, s.projects = before ++ p :: after ∧ Sound before ∧ p.Faulty before e) ∧
    ∀ c, s.build = .ok c → c.projects = s.projects ∧
      (∀ key, c.projects.filter (·.key = Project.spelling key) = (c.project? key).toList) ∧
      ∀ p ∈ c.projects, p.location.issue = p.issue ∧
        p.location.owner ++ "/" ++ p.location.repository = p.repository ∧
        (p.location.owner ≠ "" ∧ '/' ∉ p.location.owner.toList) ∧
        p.location.repository ≠ "" ∧ '/' ∉ p.location.repository.toList := by
  refine ⟨exists_build_iff s, fun e => ?_, fun c hc => ?_⟩
  · rw [build_eq_error_iff]
    apply or_congr_right
    constructor
    · rintro ⟨-, hfault⟩
      obtain ⟨before, p, after, hsplit, hbefore, hfaulty⟩ := split_of_fault? hfault
      exact ⟨before, p, after, hsplit, fault?_eq_none_iff.1 hbefore, hfaulty⟩
    · rintro ⟨before, p, after, hsplit, hbefore, hfaulty⟩
      refine ⟨by simp [hsplit], ?_⟩
      rw [hsplit]
      exact fault?_of_split (fault?_eq_none_iff.2 hbefore) hfaulty
  · obtain ⟨hfault, hprojects⟩ := fault?_of_build hc
    have hsound : Sound c.projects := fault?_eq_none_iff.1 hfault
    refine ⟨hprojects, fun key => filter_key hsound.distinct _, fun p hp => ?_⟩
    obtain ⟨owner, name, hrepository, ⟨howner, hslash⟩, hname, hslash'⟩ := hsound.located p hp
    obtain ⟨rfl, rfl⟩ := Project.owner_name_of_repository hrepository hslash
    have hp : p.fault? = none := Project.fault?_eq_none_iff.2 ⟨hsound.located p hp, hsound.numbered p hp⟩
    refine ⟨rfl, Project.fullName_location hp, ⟨?_, ?_⟩, ?_, ?_⟩
    · simpa [Project.location] using howner
    · simpa [Project.location] using hslash
    · simpa [Project.location] using hname
    · simpa [Project.location] using hslash'

def listed : Settings :=
  ⟨[.ofIssue "Acme/Web" 1, (Project.ofIssue "acme/api" 2).withKey "API "], none, none, false⟩

theorem build_verdict_listed :
    ∃ c, listed.build = .ok c ∧ c.projects = listed.projects ∧
      c.projects.filter (·.key = Project.spelling " Api") = (c.project? " Api").toList := by
  obtain ⟨hprojects, hkeys, -⟩ := (build_verdict listed).2.2 _ rfl
  exact ⟨_, rfl, hprojects, hkeys " Api"⟩

end Settings

end FlagSheet
