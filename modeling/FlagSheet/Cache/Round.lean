import FlagSheet.Cache.Memory

namespace FlagSheet

namespace Round

variable {σ ε α : Type}

inductive Stage (ε α : Type) where
  | waiting
  | loading (answer : Except ε α)
  | done (answer : Except ε α)

def Stage.weight : Stage ε α → Nat
  | waiting => 2
  | loading _ => 1
  | done _ => 0

def Stage.answer? : Stage ε α → Option (Except ε α)
  | done answer => some answer
  | _ => none

structure Call (σ ε α : Type) where
  place : Nat
  load : Loader σ ε α
  stage : Stage ε α

structure State (σ α : Type) where
  memory : Memory α
  outside : σ
  begun : List Nat

/-- Polled for the first time, a load does its work and suspends; polled again, it answers. One load at a time
runs for an entry, and the calls that wait for it take its value, or, when it fails, load in their turn. -/
def Call.poll (c : Call σ ε α) (s : State σ α) : Call σ ε α × State σ α :=
  match c.stage with
  | .done _ => (c, s)
  | .loading answer =>
    ({ c with stage := .done answer }, { s with memory := s.memory.settle c.place answer })
  | .waiting =>
    match s.memory.value? c.place with
    | some v => ({ c with stage := .done (.ok v) }, s)
    | none =>
      if c.place ∈ s.begun then (c, s)
      else
        let (answer, outside) := c.load s.outside
        ({ c with stage := .loading answer }, { s with outside, begun := c.place :: s.begun })

def pollAll : List (Call σ ε α) → State σ α → List (Call σ ε α) × State σ α
  | [], s => ([], s)
  | c :: cs, s =>
    let (c, s) := c.poll s
    let (cs, s) := pollAll cs s
    (c :: cs, s)

def weight : List (Call σ ε α) → Nat
  | [] => 0
  | c :: cs => c.stage.weight + weight cs

theorem weight_poll_le (c : Call σ ε α) (s : State σ α) :
    (c.poll s).1.stage.weight ≤ c.stage.weight := by
  unfold Call.poll
  split
  · exact Nat.le_refl _
  · next h => simp [h, Stage.weight]
  · next h =>
    split
    · simp [Stage.weight]
    · split
      · exact Nat.le_refl _
      · simp [h, Stage.weight]

theorem weight_poll_lt {c : Call σ ε α} {s : State σ α} (hc : c.stage.weight ≠ 0) (hs : s.begun = []) :
    (c.poll s).1.stage.weight < c.stage.weight := by
  unfold Call.poll
  split
  · next h => simp [h, Stage.weight] at hc
  · next h => simp [h, Stage.weight]
  · next h =>
    split
    · simp [h, Stage.weight]
    · simp [h, hs, Stage.weight]

theorem weight_pollAll_le (cs : List (Call σ ε α)) (s : State σ α) :
    weight (pollAll cs s).1 ≤ weight cs := by
  induction cs generalizing s with
  | nil => exact Nat.le_refl _
  | cons c cs ih =>
    have := weight_poll_le c s
    have := ih (c.poll s).2
    simp only [weight, pollAll] at *
    omega

theorem weight_pollAll_lt {cs : List (Call σ ε α)} {s : State σ α} (hcs : weight cs ≠ 0)
    (hs : s.begun = []) : weight (pollAll cs s).1 < weight cs := by
  induction cs with
  | nil => simp [weight] at hcs
  | cons c cs ih =>
    by_cases hc : c.stage.weight = 0
    · have hdone : c.poll s = (c, s) := by
        unfold Call.poll
        split <;> simp_all [Stage.weight]
      have := ih (by simpa [weight, hc] using hcs)
      simp only [weight, pollAll, hdone] at *
      omega
    · have := weight_poll_lt hc hs
      have := weight_pollAll_le cs (c.poll s).2
      simp only [weight, pollAll] at *
      omega

/-- Polls until every call is done. A load that began in an earlier turn answers before the calls that wait for
it are polled, since they come later in the list, so each turn starts with no load begun. -/
def run (cs : List (Call σ ε α)) (s : State σ α) : List (Call σ ε α) × State σ α :=
  if h : weight cs = 0 then (cs, s)
  else
    have := weight_pollAll_lt h (s := { s with begun := [] }) rfl
    run (pollAll cs { s with begun := [] }).1 (pollAll cs { s with begun := [] }).2
termination_by weight cs

def enterAll (m : Memory α) : List (Request σ ε α) → List (Call σ ε α) × Memory α
  | [] => ([], m)
  | r :: rs =>
    let (place, m) := m.enter r.key r.tags
    let (cs, m) := enterAll m rs
    (⟨place, r.load, .waiting⟩ :: cs, m)

end Round

def Memory.getAll {σ ε α : Type} (m : Memory α) (rs : List (Request σ ε α)) (s : σ) :
    List (Except ε α) × Memory α × σ :=
  let (cs, m) := Round.enterAll m rs
  let (cs, state) := Round.run cs ⟨m, s, []⟩
  (cs.filterMap (·.stage.answer?), state.memory, state.outside)

end FlagSheet
