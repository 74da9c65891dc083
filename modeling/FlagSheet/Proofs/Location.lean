import FlagSheet.Config.Project
import FlagSheet.Proofs.Text.Lowercase

namespace FlagSheet

def Location.fullName (l : Location) : String := l.owner ++ "/" ++ l.repository

namespace Project

open Text

variable {p r : Project}

/-- The repository is kept in the spelling of repositories, as it is in whatever `ofIssue` makes. -/
def Spelled (p : Project) : Prop := ∃ text, p.repository = spelling text

theorem spelled_ofIssue (repository : String) (issue : UInt64) : (ofIssue repository issue).Spelled := ⟨repository, rfl⟩

theorem Spelled.withKey (h : p.Spelled) (key : String) : (p.withKey key).Spelled := h

theorem Spelled.withCondition (h : p.Spelled) (predicate : Predicate) : (p.withCondition predicate).Spelled := h

theorem Spelled.trim_repository (h : p.Spelled) : trim p.repository.toList = p.repository.toList := by
  obtain ⟨text, htext⟩ := h
  rw [htext, spelling, String.toList_ofList]
  exact trim_of_tight (tight_lowercase (tight_trim _))

theorem Spelled.toLower_repository (h : p.Spelled) : ∀ c ∈ p.repository.toList, c.toLower = c := by
  obtain ⟨text, htext⟩ := h
  rw [htext, spelling, String.toList_ofList]
  exact fun c hc => toLower_of_mem_lowercaseAfter hc

theorem repository_of_name (hname : p.name ≠ []) : p.repository.toList = p.owner ++ '/' :: p.name := by
  unfold name at hname ⊢
  unfold owner
  cases hd : p.repository.toList.dropWhile (· ≠ '/') with
  | nil => rw [hd] at hname; exact absurd rfl hname
  | cons c rest =>
      have hc := List.head?_dropWhile_not (· ≠ '/') p.repository.toList
      rw [hd] at hc
      obtain rfl : c = '/' := by simpa using hc
      rw [List.drop_one, List.tail_cons, ← hd, List.takeWhile_append_dropWhile]

theorem repository_of_sound (h : p.fault? = none) : p.repository.toList = p.owner ++ '/' :: p.name := by
  apply repository_of_name
  intro hname
  simp [fault?, hasRepository, hname] at h

theorem fullName_location (h : p.fault? = none) : p.location.fullName = p.repository := by
  apply String.toList_inj.1
  rw [repository_of_sound h]
  simp [Location.fullName, location]

theorem location_eq_iff (hp : p.fault? = none) (hr : r.fault? = none) :
    r.location = p.location ↔ r.repository = p.repository ∧ r.issue = p.issue := by
  constructor
  · intro h
    refine ⟨?_, congrArg Location.issue h⟩
    rw [← fullName_location hp, ← fullName_location hr, h]
  · rintro ⟨hrepository, hissue⟩
    unfold location owner name
    rw [hrepository, hissue]

theorem isAt_fullName_iff (hp : p.fault? = none) (hr : r.fault? = none) (hps : p.Spelled) (hrs : r.Spelled) :
    r.isAt p.location.fullName p.issue = true ↔ r.location = p.location := by
  rw [location_eq_iff hp hr, fullName_location hp, isAt, hps.trim_repository, Bool.and_eq_true, decide_eq_true_eq,
    sameAscii_iff hrs.toLower_repository hps.toLower_repository, String.toList_inj, and_comm]

/-- A project keeps its repository in small letters of every alphabet, but only the case of ASCII letters is disregarded
when a delivery names it. So it is found under a name of its spelling, be it the one it was made with, as long as that
name holds no capital beyond ASCII. -/
theorem isAt_ofIssue_iff (repository named : String) (issue number : UInt64) :
    ((ofIssue repository issue).isAt named number = true ↔
      issue = number ∧ spelling repository = spelling named ∧ ∀ c ∈ trim named.toList, lower c = [c.toLower]) ∧
      ((ofIssue repository issue).isAt repository issue = true ↔
        ∀ c ∈ trim repository.toList, lower c = [c.toLower]) := by
  have hfound (named : String) (number : UInt64) : (ofIssue repository issue).isAt named number = true ↔
      issue = number ∧ spelling repository = spelling named ∧ ∀ c ∈ trim named.toList, lower c = [c.toLower] := by
    rw [isAt, Bool.and_eq_true, decide_eq_true_eq]
    apply and_congr Iff.rfl
    rw [ofIssue, spelling, spelling, String.toList_ofList, sameAscii_lowercase_iff, lowercase_eq_map_of_lowercase,
      String.ofList_inj]
  refine ⟨hfound named number, ?_⟩
  rw [hfound repository issue]
  exact ⟨fun h => h.2.2, fun h => ⟨rfl, rfl, h⟩⟩

example : (ofIssue "acme/CAFÉ" 1).isAt "acme/CAFÉ" 1 = false := by decide +kernel

end Project

end FlagSheet
