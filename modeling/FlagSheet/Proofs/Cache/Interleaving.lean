import FlagSheet.Proofs.Cache.Round
import Mathlib.Data.List.Basic

namespace FlagSheet.Interleaving

variable {σ ε α : Type}

inductive Stage (ε α : Type) where
  | waiting
  | loading
  | done (answer : Except ε α)

structure Call (ε α : Type) where
  key : CacheKey
  place : Nat
  stage : Stage ε α

/-- What happens in one go. Calls are known by their numbers, in the order in which they enter. -/
inductive Move (ε α : Type) where
  | enter (key : CacheKey) (tags : List String)
  | hit (call : Nat)
  | begin (call : Nat)
  | finish (call : Nat) (answer : Except ε α)
  | invalidate (tag : String)

structure State (ε α : Type) where
  memory : Memory α
  calls : List (Call ε α)

def State.empty : State ε α := ⟨∅, []⟩

/-- A call first takes the entry of its key, and from then on the place of that entry is all it knows: it
takes the value there, or begins a load, which ends in this entry even if the entry has lost its life in the
meantime. A load begins only where there is no value, and where no other load runs. -/
inductive Step (s : State ε α) : Move ε α → State ε α → Prop
  | enter (key : CacheKey) (tags : List String) :
      Step s (.enter key tags)
        ⟨(s.memory.enter key tags).2, s.calls ++ [⟨key, (s.memory.enter key tags).1, .waiting⟩]⟩
  | hit {i : Nat} {c : Call ε α} {v : α} (hc : s.calls[i]? = some c) (hw : c.stage = .waiting)
      (hv : s.memory.value? c.place = some v) :
      Step s (.hit i) ⟨s.memory, s.calls.set i { c with stage := .done (.ok v) }⟩
  | begin {i : Nat} {c : Call ε α} (hc : s.calls[i]? = some c) (hw : c.stage = .waiting)
      (hv : s.memory.value? c.place = none) (hfree : ∀ d ∈ s.calls, d.place = c.place → d.stage ≠ .loading) :
      Step s (.begin i) ⟨s.memory, s.calls.set i { c with stage := .loading }⟩
  | finish {i : Nat} {c : Call ε α} (answer : Except ε α) (hc : s.calls[i]? = some c) (hl : c.stage = .loading) :
      Step s (.finish i answer) ⟨s.memory.settle c.place answer, s.calls.set i { c with stage := .done answer }⟩
  | invalidate (tag : String) : Step s (.invalidate tag) ⟨s.memory.invalidate tag, s.calls⟩

inductive Run (s : State ε α) : List (Move ε α) → State ε α → Prop
  | nil : Run s [] s
  | snoc {moves : List (Move ε α)} {t u : State ε α} {move : Move ε α} (h : Run s moves t) (hm : Step t move u) :
      Run s (moves ++ [move]) u

theorem Run.trans {s t u : State ε α} {moves more : List (Move ε α)} (h : Run s moves t) (h' : Run t more u) :
    Run s (moves ++ more) u := by
  induction h' with
  | nil => simpa using h
  | snoc _ hm ih =>
      rw [← List.append_assoc]
      exact ih.snoc hm

section Step

variable {s t : State ε α} {move : Move ε α} {i p : Nat} {c : Call ε α} {e : Entry α}

inductive Became (s : State ε α) (move : Move ε α) (i : Nat) (c : Call ε α) : Prop
  | kept (hc : s.calls[i]? = some c)
  | entered {tags : List String} (hi : i = s.calls.length) (hmove : move = .enter c.key tags)
      (hplace : c.place = (s.memory.enter c.key tags).1) (hstage : c.stage = .waiting)
  | hit {d : Call ε α} {v : α} (hd : s.calls[i]? = some d) (hv : s.memory.value? d.place = some v)
      (hc : c = { d with stage := .done (.ok v) })
  | begun {d : Call ε α} (hd : s.calls[i]? = some d) (hmove : move = .begin i) (hc : c = { d with stage := .loading })
  | finished {d : Call ε α} {answer : Except ε α} (hd : s.calls[i]? = some d) (hl : d.stage = .loading)
      (hmove : move = .finish i answer) (hc : c = { d with stage := .done answer })

theorem of_getElem?_set {β : Type} {xs : List β} {i j : Nat} {x y : β} (h : (xs.set j x)[i]? = some y) :
    xs[i]? = some y ∨ (i = j ∧ y = x) := by
  rw [List.getElem?_set] at h
  split at h
  · next hij =>
      split at h
      · cases h
        exact .inr ⟨hij.symm, rfl⟩
      · cases h
  · exact .inl h

theorem getElem?_append_of_some {β : Type} {xs ys : List β} {i : Nat} {x : β} (h : xs[i]? = some x) :
    (xs ++ ys)[i]? = some x := by
  rw [List.getElem?_append_left (List.getElem?_eq_some_iff.1 h).1, h]

theorem Step.became (h : Step s move t) (hc : t.calls[i]? = some c) : Became s move i c := by
  cases h with
  | enter key tags =>
      rcases Nat.lt_or_ge i s.calls.length with hi | hi
      · rw [List.getElem?_append_left hi] at hc
        exact .kept hc
      · rw [List.getElem?_append_right hi, List.getElem?_singleton] at hc
        split at hc
        · cases hc
          exact .entered (by omega) rfl rfl rfl
        · cases hc
  | hit hd hw hv =>
      obtain hc | ⟨rfl, heq⟩ := of_getElem?_set hc
      · exact .kept hc
      · exact .hit hd hv heq
  | begin hd hw hv hfree =>
      obtain hc | ⟨rfl, heq⟩ := of_getElem?_set hc
      · exact .kept hc
      · exact .begun hd rfl heq
  | finish answer hd hl =>
      obtain hc | ⟨rfl, heq⟩ := of_getElem?_set hc
      · exact .kept hc
      · exact .finished hd hl rfl heq
  | invalidate tag => exact .kept hc

theorem Step.call_before (h : Step s move t) (hc : t.calls[i]? = some c) :
    (∃ d, s.calls[i]? = some d ∧ d.key = c.key ∧ d.place = c.place) ∨
      (i = s.calls.length ∧ t.memory.find? c.key = some c.place) := by
  cases h.became hc with
  | kept hc => exact .inl ⟨c, hc, rfl, rfl⟩
  | entered hi hmove hplace hstage =>
      subst hmove
      cases h with
      | enter =>
          refine .inr ⟨hi, ?_⟩
          rw [hplace]
          exact s.memory.find?_enter _ _
  | hit hd _ heq | begun hd _ heq | finished hd _ _ heq =>
      subst heq
      exact .inl ⟨_, hd, rfl, rfl⟩

theorem Step.call_kept (h : Step s move t) (hc : s.calls[i]? = some c) :
    ∃ d, t.calls[i]? = some d ∧ d.key = c.key ∧ d.place = c.place := by
  have hset {j : Nat} {d : Call ε α} (hd : s.calls[j]? = some d) (stage : Stage ε α) :
      ∃ d', (s.calls.set j { d with stage })[i]? = some d' ∧ d'.key = c.key ∧ d'.place = c.place := by
    by_cases hij : j = i
    · subst hij
      obtain rfl : d = c := Option.some.inj (hd.symm.trans hc)
      exact ⟨{ d with stage }, by simp [List.getElem?_set_self', hd], rfl, rfl⟩
    · exact ⟨c, by rw [List.getElem?_set_ne hij, hc], rfl, rfl⟩
  cases h with
  | enter key tags => exact ⟨c, getElem?_append_of_some hc, rfl, rfl⟩
  | hit hd | begin hd | finish _ hd => exact hset hd _
  | invalidate tag => exact ⟨c, hc, rfl, rfl⟩

theorem Step.entry_kept (h : Step s move t) (he : s.memory.entries[p]? = some e) :
    ∃ e', t.memory.entries[p]? = some e' ∧ e'.key = e.key ∧ e'.tags = e.tags ∧ (e'.live = true → e.live = true) := by
  cases h with
  | enter key tags =>
      obtain ⟨opened, hentries, -⟩ := Memory.entries_enter s.memory key tags
      exact ⟨e, by simp only [hentries]; exact getElem?_append_of_some he, rfl, rfl, id⟩
  | hit | begin => exact ⟨e, he, rfl, rfl, id⟩
  | finish answer hd =>
      cases answer with
      | error failure => exact ⟨e, he, rfl, rfl, id⟩
      | ok v =>
          simp only [Memory.settle, Memory.publish, List.getElem?_modify, he]
          exact ⟨_, rfl, by split <;> rfl, by split <;> rfl, by split <;> exact id⟩
  | invalidate tag =>
      refine ⟨if tag ∈ e.tags then { e with live := false } else e, ?_, ?_⟩
      · simp [Memory.invalidate, he]
      · by_cases htag : tag ∈ e.tags <;> simp [htag]

theorem Step.length_le (h : Step s move t) : s.memory.entries.length ≤ t.memory.entries.length := by
  by_contra hlt
  obtain ⟨e, he⟩ : ∃ e, s.memory.entries[t.memory.entries.length]? = some e := ⟨_, List.getElem?_eq_getElem (by omega)⟩
  obtain ⟨e', he', -⟩ := h.entry_kept he
  simp at he'

theorem Step.opened (h : Step s move t) (he : t.memory.entries[p]? = some e) (hp : s.memory.entries.length ≤ p) :
    move = .enter e.key e.tags := by
  have hlt := (List.getElem?_eq_some_iff.1 he).1
  cases h with
  | enter key tags =>
      obtain ⟨opened, hentries, hopened⟩ := Memory.entries_enter s.memory key tags
      simp only [hentries] at he
      rw [List.getElem?_append_right hp] at he
      rw [hopened e (List.mem_of_getElem? he)]
  | hit | begin => exact absurd hlt (Nat.not_lt.2 hp)
  | finish answer =>
      cases answer with
      | error failure => exact absurd hlt (Nat.not_lt.2 hp)
      | ok v =>
          simp only [Memory.settle, Memory.publish, List.length_modify] at hlt
          omega
  | invalidate tag =>
      simp only [Memory.invalidate, List.length_map] at hlt
      omega

theorem Step.value? (h : Step s move t) {v : α} (hv : t.memory.value? p = some v) :
    s.memory.value? p = some v ∨
      ∃ j d, s.calls[j]? = some d ∧ d.stage = .loading ∧ d.place = p ∧ move = .finish j (.ok v) := by
  cases h with
  | enter key tags =>
      refine .inl ?_
      obtain ⟨opened, hentries, hopened⟩ := Memory.entries_enter s.memory key tags
      obtain ⟨e, he, hvalue⟩ := Option.bind_eq_some_iff.1 hv
      simp only [hentries] at he
      rcases Nat.lt_or_ge p s.memory.entries.length with hp | hp
      · rw [List.getElem?_append_left hp] at he
        exact Option.bind_eq_some_iff.2 ⟨e, he, hvalue⟩
      · rw [List.getElem?_append_right hp] at he
        rw [hopened e (List.mem_of_getElem? he)] at hvalue
        cases hvalue
  | hit | begin => exact .inl hv
  | @finish j d answer hd hl =>
      cases answer with
      | error failure => exact .inl hv
      | ok w =>
          simp only [Memory.settle, Memory.value?_publish] at hv
          split at hv
          · next hp =>
              obtain ⟨-, -, rfl⟩ := Option.map_eq_some_iff.1 hv
              exact .inr ⟨j, d, hd, hl, hp.symm, rfl⟩
          · exact .inl hv
  | invalidate tag =>
      refine .inl ?_
      obtain ⟨e, he, hvalue⟩ := Option.bind_eq_some_iff.1 hv
      simp only [Memory.invalidate, List.getElem?_map] at he
      obtain ⟨e₀, he₀, rfl⟩ := Option.map_eq_some_iff.1 he
      refine Option.bind_eq_some_iff.2 ⟨e₀, he₀, ?_⟩
      rw [← hvalue]
      split <;> rfl

end Step

def Stage.ofRound : Round.Stage ε α → Stage ε α
  | .waiting => .waiting
  | .loading _ => .loading
  | .done answer => .done answer

def Call.ofRound (key : Nat → CacheKey) (c : Round.Call σ ε α) : Call ε α := ⟨key c.place, c.place, .ofRound c.stage⟩

section Round

variable {k : Nat → CacheKey} {calls : List (Call ε α)} {cs polled rest : List (Round.Call σ ε α)}
  {c c' : Round.Call σ ε α} {s s' t : Round.State σ α}

theorem run_poll (hcalls : ∀ c ∈ calls, c.stage ≠ .loading) (h : Round.Orderly polled (c :: rest) s)
    (hp : Round.Polled c s c' s') :
    ∃ moves, Run ⟨s.memory, calls ++ (polled ++ c :: rest).map (Call.ofRound k)⟩ moves
      ⟨s'.memory, calls ++ (polled ++ c' :: rest).map (Call.ofRound k)⟩ := by
  have hc : (calls ++ (polled ++ c :: rest).map (Call.ofRound k))[calls.length + polled.length]? =
      some (Call.ofRound k c) := by simp
  have hset : (calls ++ (polled ++ c :: rest).map (Call.ofRound k)).set (calls.length + polled.length)
      (Call.ofRound k c') = calls ++ (polled ++ c' :: rest).map (Call.ofRound k) := by simp
  have hstage {stage : Round.Stage ε α} (h : c.stage = stage) : (Call.ofRound k c).stage = .ofRound stage :=
    congrArg Stage.ofRound h
  rw [← hset]
  cases hp with
  | rests | waits => exact ⟨[], by simpa using Run.nil⟩
  | answers hc' => exact ⟨_, Run.nil.snoc (.finish _ hc (hstage hc'))⟩
  | shares hw hv => exact ⟨_, Run.nil.snoc (.hit hc (hstage hw) hv)⟩
  | begins hw hv hb =>
      refine ⟨_, Run.nil.snoc (.begin hc (hstage hw) hv ?_)⟩
      -- Calls for its entry that have been polled in the turn are over, and those that have not still wait.
      intro d hd hplace
      rcases List.mem_append.1 hd with hd | hd
      · exact hcalls d hd
      · obtain ⟨e, he, rfl⟩ := List.mem_map.1 hd
        intro hl
        rcases List.mem_append.1 he with he | he
        · obtain ⟨answer, hdone⟩ := h.over_of_begins hb e he hplace
          rw [Call.ofRound, hdone] at hl
          cases hl
        · have hwaiting : e.stage = .waiting := by
            rcases List.mem_cons.1 he with rfl | he
            · exact hw
            · have hturn := (List.pairwise_cons.1 (List.pairwise_append.1 h.inTurn).2.1).1 e he hplace.symm
              exact hturn.resolve_left (Round.Call.not_over_of_waiting hw)
          rw [Call.ofRound, hwaiting] at hl
          cases hl

theorem run_passes (hcalls : ∀ c ∈ calls, c.stage ≠ .loading) (hcs : ∀ c ∈ cs, c.stage = .waiting)
    (h : Round.Passes cs s polled rest t) :
    (∃ moves, Run ⟨s.memory, calls ++ cs.map (Call.ofRound k)⟩ moves
      ⟨t.memory, calls ++ (polled ++ rest).map (Call.ofRound k)⟩) ∧
      (polled ++ rest).map (·.place) = cs.map (·.place) := by
  induction h with
  | start => exact ⟨⟨[], .nil⟩, rfl⟩
  | @poll polled rest c t h ih =>
      obtain ⟨⟨moves, hrun⟩, hplaces⟩ := ih
      have hp := Round.polled_poll c t
      obtain ⟨more, hpoll⟩ := run_poll (k := k) hcalls (h.orderly hcs) hp
      rw [List.append_assoc, List.singleton_append]
      refine ⟨⟨moves ++ more, hrun.trans hpoll⟩, ?_⟩
      rw [← hplaces]
      simp [hp.same.1]
  | turn _ ih => simpa using ih

theorem run_enterAll (calls : List (Call ε α)) (m : Memory α) (rs : List (Request σ ε α))
    (hk : ∀ key p, (Round.enterAll m rs).2.find? key = some p → k p = key) :
    (∃ moves, Run ⟨m, calls⟩ moves
      ⟨(Round.enterAll m rs).2, calls ++ (Round.enterAll m rs).1.map (Call.ofRound k)⟩) ∧
      (Round.enterAll m rs).1.map (fun c => k c.place) = rs.map (·.key) := by
  induction rs generalizing m calls with
  | nil => exact ⟨⟨[], by simpa [Round.enterAll] using Run.nil⟩, rfl⟩
  | cons r rs ih =>
      have hentered : Run ⟨m, calls⟩ [.enter r.key r.tags] _ := Run.nil.snoc (.enter r.key r.tags)
      obtain ⟨⟨moves, hrun⟩, hkeys⟩ :=
        ih (calls ++ [⟨r.key, (m.enter r.key r.tags).1, .waiting⟩]) (m.enter r.key r.tags).2 hk
      have hr := hk r.key _ (Round.find?_enterAll rs (m.find?_enter r.key r.tags))
      refine ⟨⟨_ :: moves, hentered.trans ?_⟩, ?_⟩
      · simpa [Round.enterAll, Call.ofRound, Stage.ofRound, hr] using hrun
      · simpa [Round.enterAll, hr] using hkeys

theorem answers_ofRound (hcs : ∀ c ∈ cs, c.Over) :
    cs.map (fun c => Stage.ofRound c.stage) = (cs.filterMap (·.stage.answer?)).map .done := by
  induction cs with
  | nil => rfl
  | cons c cs ih =>
      rw [List.forall_mem_cons] at hcs
      obtain ⟨⟨answer, hdone⟩, hcs⟩ := hcs
      have hanswer : c.stage.answer? = some answer := by rw [hdone]; rfl
      have hstage : Stage.ofRound c.stage = .done answer := by rw [hdone]; rfl
      simp [hanswer, hstage, ih hcs]

end Round

/-- A round of calls is one order of their steps. -/
theorem run_getAll (m : Memory α) {calls : List (Call ε α)} (hcalls : ∀ c ∈ calls, c.stage ≠ .loading)
    (rs : List (Request σ ε α)) (s : σ) :
    ∃ moves entered, Run ⟨m, calls⟩ moves ⟨(m.getAll rs s).2.1, calls ++ entered⟩ ∧
      entered.map (·.key) = rs.map (·.key) ∧ entered.map (·.stage) = (m.getAll rs s).1.map .done := by
  let k : Nat → CacheKey := fun p => ((Round.enterAll m rs).2.entries[p]?.map (·.key)).getD ⟨"", ""⟩
  have hk : ∀ key p, (Round.enterAll m rs).2.find? key = some p → k p = key := by
    intro key p hp
    obtain ⟨e, he, hliving⟩ := Memory.living?_of_find? hp
    simp [k, he, (Memory.key_of_living? hliving).2.2]
  obtain ⟨⟨moves, hentered⟩, hkeys⟩ := run_enterAll calls m rs hk
  obtain ⟨⟨more, hround⟩, hplaces⟩ := run_passes (k := k) hcalls (fun c hc => (Round.of_mem_enterAll hc).1)
    (Round.Passes.run (s := ⟨(Round.enterAll m rs).2, s, []⟩) .start)
  refine ⟨moves ++ more, _, hentered.trans hround, ?_, ?_⟩
  · rw [← hkeys, List.map_map]
    have hplaces := congrArg (List.map k) hplaces
    rw [List.map_map, List.map_map] at hplaces
    exact hplaces
  · rw [List.map_map]
    exact answers_ofRound (Round.over_of_weight (Round.weight_run _ _))

end FlagSheet.Interleaving
