import FlagSheet.Engine.Query
import Mathlib.Data.List.Nodup

namespace FlagSheet

namespace Settings

theorem fault?_eq_none {seen : List String} {ps : List Project} (h : fault? seen ps = none) :
    (∀ p ∈ ps, p.fault? = none ∧ p.key ∉ seen) ∧ (ps.map Project.key).Nodup := by
  induction ps generalizing seen with
  | nil => simp
  | cons p ps ih =>
      unfold fault? at h
      cases hp : p.fault? with
      | some fault => rw [hp] at h; cases h
      | none =>
          rw [hp] at h
          dsimp only at h
          by_cases hseen : p.key ∈ seen
          · rw [if_pos hseen] at h; cases h
          · rw [if_neg hseen] at h
            obtain ⟨hsound, hnodup⟩ := ih h
            refine ⟨?_, List.nodup_cons.2 ⟨?_, hnodup⟩⟩
            · intro r hr
              rcases List.mem_cons.1 hr with rfl | hr
              · exact ⟨hp, hseen⟩
              · exact ⟨(hsound r hr).1, fun hmem => (hsound r hr).2 (List.mem_cons_of_mem _ hmem)⟩
            · intro hmem
              obtain ⟨r, hr, hkey⟩ := List.mem_map.1 hmem
              exact (hsound r hr).2 (hkey ▸ List.mem_cons_self)

theorem fault?_of_build {s : Settings} {c : Config} (h : s.build = .ok c) :
    fault? [] c.projects = none ∧ c.projects = s.projects := by
  unfold build at h
  split at h
  · cases h
  · cases hf : fault? [] s.projects with
    | some fault => rw [hf] at h; cases h
    | none =>
        rw [hf] at h
        cases h
        exact ⟨hf, rfl⟩

theorem secret_of_built {s : Settings} {c : Config} (h : s.build = .ok c) : c.secret = s.secret.filter (!·.isBlank) := by
  unfold build at h
  split at h
  · cases h
  · split at h
    · cases h
    · cases h
      rfl

end Settings

namespace Config

variable {c : Config}

def Built (c : Config) : Prop := ∃ s : Settings, s.build = .ok c

theorem Built.fault?_project (h : c.Built) {p : Project} (hp : p ∈ c.projects) : p.fault? = none := by
  obtain ⟨s, hs⟩ := h
  exact ((Settings.fault?_eq_none (Settings.fault?_of_build hs).1).1 p hp).1

theorem Built.eq_of_key (h : c.Built) {p r : Project} (hp : p ∈ c.projects) (hr : r ∈ c.projects)
    (hkey : p.key = r.key) : p = r := by
  obtain ⟨s, hs⟩ := h
  exact List.inj_on_of_nodup_map (Settings.fault?_eq_none (Settings.fault?_of_build hs).1).2 hp hr hkey

theorem resolveProject_of_resolve {q : Query} {p : Project} {environment : String}
    (h : c.resolve q = .ok (p, environment)) : c.resolveProject q.project = .ok p := by
  unfold resolve at h
  cases hr : c.resolveProject q.project with
  | error fault => rw [hr] at h; cases h
  | ok r =>
      rw [hr] at h
      dsimp only at h
      cases he : c.resolveEnvironment q.environment with
      | error fault => rw [he] at h; cases h
      | ok environment =>
          rw [he] at h
          cases h
          rfl

theorem mem_of_resolve {q : Query} {p : Project} {environment : String}
    (h : c.resolve q = .ok (p, environment)) : p ∈ c.projects := by
  have hp := resolveProject_of_resolve h
  unfold resolveProject at hp
  cases hk : q.project.bind Text.content? with
  | some key =>
      rw [hk] at hp
      dsimp only at hp
      cases hf : c.project? key with
      | none => rw [hf] at hp; cases hp
      | some r =>
          rw [hf] at hp
          cases hp
          exact List.mem_of_find?_eq_some hf
  | none =>
      rw [hk] at hp
      dsimp only at hp
      split at hp
      · next heq =>
          cases hp
          rw [heq]
          exact List.mem_singleton_self _
      · cases hp

end Config

end FlagSheet
