import FlagSheet.Markup.Reader
import FlagSheet.Proofs.Config
import FlagSheet.Proofs.Engine.Step
import FlagSheet.Proofs.Location
import FlagSheet.Proofs.Slug.Case

namespace FlagSheet

namespace Text

structure Settled (cs : List Char) : Prop where
  tight : Tight cs
  small : ∀ c ∈ cs, lower c = [c]

theorem settled_spelling (s : String) : Settled (Project.spelling s).toList := by
  rw [Project.spelling, String.toList_ofList]
  exact ⟨tight_lowercase (tight_trim _), fun c hc => lower_of_mem_lowercaseAfter hc⟩

theorem small_of_isDigit {c : Char} (h : c.isDigit = true) : lower c = [c] ∧ isBlank c = false := by
  simp only [Char.isDigit, Bool.and_eq_true, decide_eq_true_eq] at h
  obtain ⟨hlo, hhi⟩ : 48 ≤ c.toNat ∧ c.toNat ≤ 57 := h
  exact ⟨lower_of_lt (by omega), within_of_misses hlo hhi (by decide)⟩

theorem settled_number (n : Nat) : Settled (toString n).toList ∧ (toString n).toList ≠ [] := by
  have hdigit : ∀ c ∈ (toString n).toList, c.isDigit = true := by
    intro c hc
    exact Nat.isDigit_of_mem_toDigits (b := 10) (by decide) (by decide) (by simpa using hc)
  refine ⟨⟨⟨fun c hc => ?_, fun c hc => ?_⟩, fun c hc => (small_of_isDigit (hdigit c hc)).1⟩, ?_⟩
  · exact (small_of_isDigit (hdigit c (List.mem_of_head? hc))).2
  · exact (small_of_isDigit (hdigit c (List.mem_of_getLast? hc))).2
  · simp

theorem Settled.join {as bs : List Char} (ha : Settled as) (hb : Settled bs) (hne : bs ≠ []) {c : Char}
    (hc : lower c = [c]) (hblank : isBlank c = false) : Settled (as ++ c :: bs) := by
  refine ⟨⟨fun d hd => ?_, fun d hd => ?_⟩, fun d hd => ?_⟩
  · cases as with
    | nil =>
        cases hd
        exact hblank
    | cons a as => exact ha.tight.1 d hd
  · rw [List.getLast?_append, List.getLast?_cons, Option.some_or, List.getLast?_eq_some_getLast hne] at hd
    exact hb.tight.2 d (by simpa [List.getLast?_eq_some_getLast hne] using hd)
  · rcases List.mem_append.1 hd with hd | hd
    · exact ha.small d hd
    · rcases List.mem_cons.1 hd with rfl | hd
      · exact hc
      · exact hb.small d hd

theorem toLower_of_small {c : Char} (h : lower c = [c]) : c.toLower = c :=
  toLower_of_mem_lower (c := c) (by rw [h]; exact List.mem_singleton_self c)

variable {key written : List Char}

theorem Settled.tight_written (h : Settled key) (hsame : sameAscii written key = true) :
    Tight written ∧ lowercase written = key := by
  have hkey : key.map Char.toLower = key :=
    (List.map_congr_left fun c hc => toLower_of_small (h.small c hc)).trans (List.map_id key)
  have hmap : written.map Char.toLower = key := by
    rw [sameAscii, decide_eq_true_eq, hkey] at hsame
    exact hsame
  refine ⟨⟨fun c hc => ?_, fun c hc => ?_⟩, lowercaseAfter_of_toLower hmap h.small []⟩
  · have hhead : key.head? = some c.toLower := by rw [← hmap, List.head?_map, hc, Option.map_some]
    exact (isBlank_toLower c).symm.trans (h.tight.1 _ hhead)
  · have hlast : key.getLast? = some c.toLower := by rw [← hmap, List.getLast?_map, hc, Option.map_some]
    exact (isBlank_toLower c).symm.trans (h.tight.2 _ hlast)

theorem sameAscii_nil (hsame : sameAscii written [] = true) : written = [] := by
  simpa [sameAscii] using hsame

end Text

open Text

namespace Project

/-- Projects that can be built: of an issue, with a key and predicates added in any order. -/
inductive Made : Project → Prop where
  | ofIssue (repository : String) (issue : UInt64) : Made (ofIssue repository issue)
  | withKey {p : Project} (h : Made p) (key : String) : Made (p.withKey key)
  | withCondition {p : Project} (h : Made p) (predicate : Predicate) : Made (p.withCondition predicate)

variable {p : Project}

theorem Made.spelled (h : p.Made) : p.Spelled := by
  induction h with
  | ofIssue repository issue => exact spelled_ofIssue repository issue
  | withKey _ key ih => exact ih.withKey key
  | withCondition _ predicate ih => exact ih.withCondition predicate

theorem Made.chosenKey (h : p.Made) : ∀ key ∈ p.chosenKey, ∃ text, key = spelling text := by
  induction h with
  | ofIssue repository issue => exact nofun
  | withKey _ key ih =>
      rintro _ ⟨⟩
      exact ⟨key, rfl⟩
  | withCondition _ predicate ih => exact ih

theorem Made.settled (h : p.Made) : Settled p.key.toList := by
  cases hkey : p.chosenKey with
  | some key =>
      obtain ⟨text, rfl⟩ := h.chosenKey key hkey
      rw [key, hkey]
      exact settled_spelling text
  | none =>
      obtain ⟨text, htext⟩ := h.spelled
      obtain ⟨hnumber, hne⟩ := settled_number p.issue.toNat
      have hjoin := (settled_spelling text).join hnumber hne (c := '/') (lower_of_lt (by decide)) (by decide)
      rw [key, hkey, Option.getD_none, htext]
      simpa using hjoin

end Project

namespace Config

variable {c : Config} {p : Project}

theorem Built.project?_key (hc : c.Built) (hp : p ∈ c.projects) {key : String} (hkey : Project.spelling key = p.key) :
    c.project? key = some p := by
  unfold project?
  rw [hkey]
  cases hfind : c.projects.find? (·.key = p.key) with
  | none => exact absurd (List.find?_eq_none.1 hfind p hp) (by simp)
  | some r =>
      have hr : r.key = p.key := by simpa using List.find?_some hfind
      rw [hc.eq_of_key (List.mem_of_find?_eq_some hfind) hp hr]

theorem Built.resolveProject_key (hc : c.Built) (hp : p ∈ c.projects) (hmade : p.Made) {written before after : List Char}
    (hsame : sameAscii written p.key.toList = true) (hbefore : before.all isBlank = true)
    (hafter : after.all isBlank = true) :
    c.resolveProject (some (String.ofList (before ++ written ++ after))) =
      if p.key = "" ∧ 1 < c.projects.length then .error .ambiguousProject else .ok p := by
  have hsettled := hmade.settled
  by_cases hempty : p.key = ""
  · have hwritten : written = [] := by
      rw [hempty] at hsame
      exact sameAscii_nil hsame
    have hnone : content? (String.ofList (before ++ written ++ after)) = none := by
      rw [content?, allBlank, String.toList_ofList, hwritten, List.append_nil, List.all_append, hbefore, hafter]
      rfl
    rw [resolveProject, Option.bind_some, hnone]
    dsimp only
    cases hprojects : c.projects with
    | nil => rw [hprojects] at hp; cases hp
    | cons r rest =>
        cases rest with
        | nil =>
            rw [hprojects] at hp
            rw [List.mem_singleton.1 hp]
            simp
        | cons r' rest => simp [hempty]
  · obtain ⟨htight, hlower⟩ := hsettled.tight_written hsame
    have hne : written ≠ [] := by
      rintro rfl
      exact hempty (String.toList_eq_nil_iff.1 hlower.symm)
    have htrim := trim_around hbefore htight hne hafter
    have hsome : content? (String.ofList (before ++ written ++ after)) = some (String.ofList written) := by
      have hblank : allBlank (String.ofList (before ++ written ++ after)) = false := by
        obtain ⟨d, rest, rfl⟩ := List.exists_cons_of_ne_nil hne
        have hd : isBlank d = false := htight.1 d rfl
        rw [allBlank, String.toList_ofList, List.all_append, List.all_append, List.all_cons, hd]
        simp
      rw [content?, hblank, if_neg Bool.false_ne_true, trimmed, String.toList_ofList, htrim]
    have hspelling : Project.spelling (String.ofList written) = p.key := by
      rw [Project.spelling, String.toList_ofList, trim_of_tight htight, hlower, String.ofList_toList]
    rw [resolveProject, Option.bind_some, hsome]
    dsimp only
    rw [hc.project?_key hp hspelling, if_neg fun h => hempty h.1]

theorem resolveEnvironment_of_content {environment : String} (h : allBlank environment = false) :
    c.resolveEnvironment (some environment) = .ok (slugify environment) := by
  rw [resolveEnvironment, Option.bind_some, content?, h, if_neg Bool.false_ne_true, Option.some_or]
  dsimp only
  rw [slugify, trimmed, String.toList_ofList, Slug.ofChars_trim]
  rfl

end Config

namespace Engine

/-- The document and the predicates of a project decide about a query that names its key. Only the empty key is
different: where there are other projects, such a query is refused. -/
theorem getFeatures_own_key [Markdown] {c : Config} (hc : c.Built) {p : Project} (hp : p ∈ c.projects) (hmade : p.Made)
    {written before after : List Char} (hsame : sameAscii written p.key.toList = true)
    (hbefore : before.all isBlank = true) (hafter : after.all isBlank = true) {environment : String}
    (henvironment : allBlank environment = false) (context : Context) (cache : Cache FeatureSet) (source : Source) :
    let q : Query := ⟨some (String.ofList (before ++ written ++ after)), some environment, context⟩
    let e : Engine := ⟨c, cache, source⟩
    if p.key = "" ∧ 1 < c.projects.length then e.getFeatures q = (⟨.error .ambiguousProject, []⟩, e)
    else
      c.resolve q = .ok (p, slugify environment) ∧
        e.getFeatures q =
          let (loaded, cache, source) := e.cacheInUse.get (request p (slugify environment)) source
          (answer p (slugify environment) context loaded, e.after cache source) := by
  intro q e
  have hproject := hc.resolveProject_key hp hmade hsame hbefore hafter
  split
  · next hempty =>
      have hresolve : c.resolve q = .error .ambiguousProject := by
        rw [Config.resolve, hproject, if_pos hempty]
      exact getFeatures_of_error hresolve
  · next hkey =>
      have hresolve : c.resolve q = .ok (p, slugify environment) := by
        rw [Config.resolve, hproject, if_neg hkey]
        dsimp only
        rw [Config.resolveEnvironment_of_content henvironment]
        rfl
      exact ⟨hresolve, getFeatures_of_resolve hresolve⟩

def unnamed : Config :=
  ⟨[(Project.ofIssue "acme/web" 1).withKey " ", (Project.ofIssue "acme/web" 2).withKey "b"], none, none, false⟩

theorem unnamed_refused :
    (⟨unnamed, .off, .empty⟩ : Engine).getFeatures ⟨some "", some "production", ∅⟩ =
        (⟨.error .ambiguousProject, []⟩, ⟨unnamed, .off, .empty⟩) ∧
      unnamed.resolve ⟨some " B\n", some "Production", ∅⟩ =
        .ok ((Project.ofIssue "acme/web" 2).withKey "b", "production") := by
  have hbuilt : unnamed.Built := ⟨⟨unnamed.projects, none, none, false⟩, rfl⟩
  have hblank : sameAscii [] ((Project.ofIssue "acme/web" 1).withKey " ").key.toList = true := by decide +kernel
  have hcapital : sameAscii ['B'] ((Project.ofIssue "acme/web" 2).withKey "b").key.toList = true := by decide +kernel
  have hnone : ([] : List Char).all isBlank = true := rfl
  have hspace : [' '].all isBlank = true := rfl
  have hfeed : ['\n'].all isBlank = true := rfl
  have hsmall : allBlank "production" = false := by decide +kernel
  have hlarge : allBlank "Production" = false := by decide +kernel
  have hfirst := getFeatures_own_key hbuilt List.mem_cons_self ((Project.Made.ofIssue "acme/web" 1).withKey " ")
    hblank hnone hnone hsmall ∅ .off .empty
  have hsecond := getFeatures_own_key hbuilt (List.mem_cons_of_mem _ List.mem_cons_self)
    ((Project.Made.ofIssue "acme/web" 2).withKey "b") hcapital hspace hfeed hlarge ∅ .off .empty
  have hempty : ((Project.ofIssue "acme/web" 1).withKey " ").key = "" ∧ 1 < unnamed.projects.length := by decide +kernel
  have hkey : ¬(((Project.ofIssue "acme/web" 2).withKey "b").key = "" ∧ 1 < unnamed.projects.length) := by decide +kernel
  have hslug : slugify "Production" = "production" := by decide +kernel
  exact ⟨(if_pos hempty).mp hfirst, hslug ▸ ((if_neg hkey).mp hsecond).1⟩

end Engine

end FlagSheet
