import FlagSheet.Proofs.Cache.Poll
import Mathlib.Data.List.Basic

namespace FlagSheet

variable {σ ε α : Type}

namespace Memory

def getEach (m : Memory α) : List (Request σ ε α) → σ → List (Except ε α) × Memory α × σ
  | [], s => ([], m, s)
  | r :: rs, s =>
    let (answer, m, s) := m.get r s
    let (answers, m, s) := m.getEach rs s
    (answer :: answers, m, s)

end Memory

namespace Round

/-- The moments that a round of calls passes through: which calls have been polled in the turn, which have not,
and what they act on. -/
inductive Passes (cs : List (Call σ ε α)) (s : State σ α) : List (Call σ ε α) → List (Call σ ε α) → State σ α → Prop
  | start : Passes cs s [] cs { s with begun := [] }
  | poll {polled rest : List (Call σ ε α)} {c : Call σ ε α} {t : State σ α} (h : Passes cs s polled (c :: rest) t) :
      Passes cs s (polled ++ [(c.poll t).1]) rest (c.poll t).2
  | turn {polled : List (Call σ ε α)} {t : State σ α} (h : Passes cs s polled [] t) :
      Passes cs s [] polled { t with begun := [] }

section Run

variable {cs polled rest : List (Call σ ε α)} {s t : State σ α}

theorem Passes.pollAll (h : Passes cs s polled rest t) :
    Passes cs s (polled ++ (pollAll rest t).1) [] (pollAll rest t).2 := by
  induction rest generalizing polled t with
  | nil => simpa [Round.pollAll] using h
  | cons c rest ih => simpa [Round.pollAll] using ih h.poll

theorem Passes.run (h : Passes cs s [] polled { t with begun := [] }) :
    Passes cs s [] (run polled t).1 { (run polled t).2 with begun := [] } := by
  induction polled, t using Round.run.induct with
  | case1 polled t hw =>
      rw [Round.run, dif_pos hw]
      exact h
  | case2 polled t hw _ ih =>
      rw [Round.run, dif_neg hw]
      exact ih h.pollAll.turn

theorem weight_run (cs : List (Call σ ε α)) (s : State σ α) : weight (run cs s).1 = 0 := by
  induction cs, s using Round.run.induct with
  | case1 cs s hw => rwa [run, dif_pos hw]
  | case2 cs s hw _ ih => rwa [run, dif_neg hw]

theorem over_of_weight {cs : List (Call σ ε α)} (h : weight cs = 0) : ∀ c ∈ cs, c.Over := by
  induction cs with
  | nil => simp
  | cons c cs ih =>
      rw [weight, Nat.add_eq_zero_iff] at h
      rw [List.forall_mem_cons]
      refine ⟨?_, ih h.2⟩
      cases hc : c.stage with
      | done answer => exact ⟨answer, hc⟩
      | waiting | loading => simp [hc, Stage.weight] at h

theorem Orderly.turn (h : Orderly polled [] t) : Orderly [] polled { t with begun := [] } where
  inTurn := by simpa using h.inTurn
  loading := by simpa using h.loading
  begun := by simp

theorem Orderly.start (h : ∀ c ∈ cs, c.stage = .waiting) : Orderly [] cs s where
  inTurn := by
    rw [List.nil_append, List.pairwise_iff_forall_sublist]
    intro c d hsub _
    exact .inr (h d (hsub.subset (by simp)))
  loading := by
    intro c hc answer hloading
    rw [h c hc] at hloading
    cases hloading
  begun := by simp

theorem Passes.orderly (h : Passes cs s polled rest t) (hcs : ∀ c ∈ cs, c.stage = .waiting) :
    Orderly polled rest t := by
  induction h with
  | start => exact .start hcs
  | poll _ ih => exact ih.poll (polled_poll _ _)
  | turn _ ih => exact ih.turn

theorem Passes.loading (h : Passes cs s polled rest t) (hcs : ∀ c ∈ cs, c.stage = .waiting) :
    (polled ++ rest).Pairwise fun c d =>
      c.place = d.place → ∀ answer answer', c.stage = .loading answer → d.stage ≠ .loading answer' := by
  refine (h.orderly hcs).inTurn.imp ?_
  intro c d hturn hplace answer answer' hc hd
  obtain hover | hwaiting := hturn hplace
  · exact Call.not_over_of_loading hc hover
  · rw [hd] at hwaiting; cases hwaiting

theorem Passes.finish (h : Passes cs s polled rest t) (hcs : ∀ c ∈ cs, c.stage = .waiting) (hi : Independent cs) :
    Independent (polled ++ rest) ∧
      Round.finish (polled ++ rest) t.memory t.outside = Round.finish cs s.memory s.outside := by
  induction h with
  | start => exact ⟨hi, rfl⟩
  | @poll polled rest c t h ih =>
      have hp := polled_poll c t
      have hfinish := (h.orderly hcs).finish_poll ih.1 hp
      rw [List.append_assoc, List.singleton_append]
      exact ⟨ih.1.poll hp, hfinish.trans ih.2⟩
  | turn _ ih => simpa using ih

theorem finish_run (hcs : ∀ c ∈ cs, c.stage = .waiting) (hi : Independent cs) :
    ((run cs s).1.filterMap (·.stage.answer?), (run cs s).2.memory, (run cs s).2.outside) =
      finish cs s.memory s.outside := by
  have hpasses : Passes cs s [] (run cs s).1 { (run cs s).2 with begun := [] } := Passes.run .start
  rw [← finish_over (over_of_weight (weight_run cs s))]
  exact (hpasses.finish hcs hi).2

end Run

section Enter

variable {m : Memory α} {rs : List (Request σ ε α)} {p : Nat}

theorem value?_enterAll (rs : List (Request σ ε α)) (hp : p < m.entries.length) :
    (enterAll m rs).2.value? p = m.value? p := by
  induction rs generalizing m with
  | nil => rfl
  | cons r rs ih => exact (ih (Nat.lt_of_lt_of_le hp Memory.length_le_enter)).trans (Memory.value?_enter_of_lt hp)

theorem find?_enterAll (rs : List (Request σ ε α)) {key : CacheKey} (h : m.find? key = some p) :
    (enterAll m rs).2.find? key = some p := by
  induction rs generalizing m with
  | nil => exact h
  | cons r rs ih => exact ih (Memory.find?_enter_of_find? h)

theorem enterAll_settle (answer : Except ε α) (hp : p < m.entries.length) :
    enterAll (m.settle p answer) rs = ((enterAll m rs).1, (enterAll m rs).2.settle p answer) := by
  induction rs generalizing m with
  | nil => rfl
  | cons r rs ih =>
      simp only [enterAll, Memory.enter_settle answer hp]
      rw [ih (Nat.lt_of_lt_of_le hp Memory.length_le_enter)]

theorem of_mem_enterAll {c : Call σ ε α} (hc : c ∈ (enterAll m rs).1) :
    c.stage = .waiting ∧ ∃ r ∈ rs, c.load = r.load ∧ (enterAll m rs).2.find? r.key = some c.place := by
  induction rs generalizing m with
  | nil => cases hc
  | cons r rs ih =>
      have hentered := find?_enterAll rs (m.find?_enter r.key r.tags)
      rcases List.mem_cons.1 hc with rfl | hc
      · exact ⟨rfl, r, List.mem_cons_self, rfl, hentered⟩
      · obtain ⟨hwaiting, r', hr', hload, hfind⟩ := ih hc
        exact ⟨hwaiting, r', List.mem_cons_of_mem _ hr', hload, hfind⟩

theorem finish_enterAll (m : Memory α) (rs : List (Request σ ε α)) (s : σ) :
    finish (enterAll m rs).1 (enterAll m rs).2 s = m.getEach rs s := by
  induction rs generalizing m s with
  | nil => rfl
  | cons r rs ih =>
      have hlt := Memory.lt_of_find? (m.find?_enter r.key r.tags)
      have hvalue := value?_enterAll rs hlt
      simp only [enterAll, finish, Call.complete, Memory.getEach, Memory.get, hvalue]
      cases (m.enter r.key r.tags).2.value? (m.enter r.key r.tags).1 with
      | some v => simp only [ih]
      | none =>
          have hrest := ih ((m.enter r.key r.tags).2.settle (m.enter r.key r.tags).1 (r.load s).1) (r.load s).2
          rw [enterAll_settle _ hlt] at hrest
          simp only [hrest]

end Enter

end Round

/-- Calls at the same time are calls one after the other, where loads for different keys do not mind each other. -/
theorem Memory.getAll_of_commute (m : Memory α) {rs : List (Request σ ε α)}
    (hrs : ∀ r ∈ rs, ∀ r' ∈ rs, r.key ≠ r'.key → Loader.Commute r.load r'.load) (s : σ) :
    m.getAll rs s = m.getEach rs s := by
  rw [← Round.finish_enterAll]
  refine Round.finish_run (s := ⟨(Round.enterAll m rs).2, s, []⟩) (fun c hc => (Round.of_mem_enterAll hc).1) ?_
  intro c hc d hd hne
  obtain ⟨-, r, hr, hload, hfind⟩ := Round.of_mem_enterAll hc
  obtain ⟨-, r', hr', hload', hfind'⟩ := Round.of_mem_enterAll hd
  rw [hload, hload']
  apply hrs r hr r' hr'
  intro hkey
  rw [hkey, hfind'] at hfind
  exact hne (Option.some.inj hfind).symm

end FlagSheet
