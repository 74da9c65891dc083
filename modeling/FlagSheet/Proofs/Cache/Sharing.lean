import FlagSheet.Proofs.Cache.Round
import Mathlib.Data.List.Basic

namespace FlagSheet

variable {ε α : Type}

/-- Which loads have run: how many, and for each key the numbers of the calls that they ran for. -/
structure Ledger where
  runs : Nat
  numbers : CacheKey → List Nat

namespace Ledger

def blank : Ledger := ⟨0, fun _ => []⟩

def note (l : Ledger) (key : CacheKey) (number : Nat) : Ledger :=
  ⟨l.runs + 1, fun k => if k = key then l.numbers k ++ [number] else l.numbers k⟩

theorem note_comm (l : Ledger) {key k : CacheKey} (hk : key ≠ k) (number n : Nat) :
    (l.note key number).note k n = (l.note k n).note key number := by
  simp only [note, mk.injEq, true_and]
  funext j
  by_cases hj : j = key
  · subst hj
    simp [hk]
  · simp [hj]

end Ledger

/-- A call whose load has the same outcome whenever it runs. -/
structure Ask (ε α : Type) where
  key : CacheKey
  tags : List String
  outcome : Except ε α

namespace Ask

def request (a : Ask ε α) (number : Nat) : Request Ledger ε α :=
  ⟨a.key, a.tags, fun l => (a.outcome, l.note a.key number)⟩

def requests (asks : List (Ask ε α)) (n : Nat) : List (Request Ledger ε α) :=
  (asks.zipIdx n).map fun a => a.1.request a.2

def callsFor (key : CacheKey) (asks : List (Ask ε α)) (n : Nat) : List (Ask ε α × Nat) :=
  (asks.zipIdx n).filter fun a => a.1.key = key

def answersFor (key : CacheKey) (asks : List (Ask ε α)) (answers : List (Except ε α)) : List (Except ε α) :=
  ((asks.zip answers).filter fun a => a.1.key = key).map (·.2)

theorem commute_request {a b : Ask ε α} (h : a.key ≠ b.key) (number n : Nat) :
    Loader.Commute (a.request number).load (b.request n).load := fun l =>
  ⟨rfl, rfl, l.note_comm (Ne.symm h) n number⟩

theorem commute_requests (asks : List (Ask ε α)) (n : Nat) :
    ∀ r ∈ requests asks n, ∀ r' ∈ requests asks n, r.key ≠ r'.key → Loader.Commute r.load r'.load := by
  intro r hr r' hr' hne
  obtain ⟨a, -, rfl⟩ := List.mem_map.1 hr
  obtain ⟨b, -, rfl⟩ := List.mem_map.1 hr'
  exact commute_request hne a.2 b.2

/-- What calls for one entry come to, when the entry holds this: their answers, and the numbers of those whose loads
run. -/
def serve : Option α → List (Ask ε α × Nat) → List (Except ε α) × List Nat
  | _, [] => ([], [])
  | some v, _ :: calls => (.ok v :: (serve (some v) calls).1, (serve (some v) calls).2)
  | none, (a, number) :: calls =>
    (a.outcome :: (serve a.outcome.toOption calls).1, number :: (serve a.outcome.toOption calls).2)

theorem serve_some (v : α) (calls : List (Ask ε α × Nat)) : serve (some v) calls = (calls.map fun _ => .ok v, []) := by
  induction calls with
  | nil => rfl
  | cons a calls ih => simp [serve, ih]

def Fails (a : Ask ε α) : Prop := ∃ e, a.outcome = .error e

theorem serve_append {failed : List (Ask ε α × Nat)} (h : ∀ a ∈ failed, a.1.Fails) (calls : List (Ask ε α × Nat)) :
    serve none (failed ++ calls) =
      (failed.map (·.1.outcome) ++ (serve none calls).1, failed.map (·.2) ++ (serve none calls).2) := by
  induction failed with
  | nil => rfl
  | cons a failed ih =>
      rw [List.forall_mem_cons] at h
      obtain ⟨⟨e, he⟩, hfailed⟩ := h
      simp [serve, he, Except.toOption, ih hfailed]

theorem callsFor_cons (key : CacheKey) (a : Ask ε α) (asks : List (Ask ε α)) (n : Nat) :
    callsFor key (a :: asks) n =
      if a.key = key then (a, n) :: callsFor key asks (n + 1) else callsFor key asks (n + 1) := by
  simp [callsFor, List.filter_cons]

theorem answersFor_cons (key : CacheKey) (a : Ask ε α) (asks : List (Ask ε α)) (answer : Except ε α)
    (answers : List (Except ε α)) :
    answersFor key (a :: asks) (answer :: answers) =
      if a.key = key then answer :: answersFor key asks answers else answersFor key asks answers := by
  by_cases hk : a.key = key <;> simp [answersFor, hk]

theorem getEach_cons (m : Memory α) (a : Ask ε α) (asks : List (Ask ε α)) (n : Nat) (l : Ledger) :
    m.getEach (requests (a :: asks) n) l =
      ((m.get (a.request n) l).1 ::
          ((m.get (a.request n) l).2.1.getEach (requests asks (n + 1)) (m.get (a.request n) l).2.2).1,
        ((m.get (a.request n) l).2.1.getEach (requests asks (n + 1)) (m.get (a.request n) l).2.2).2) := rfl

theorem length_getEach (m : Memory α) (asks : List (Ask ε α)) (n : Nat) (l : Ledger) :
    (m.getEach (requests asks n) l).1.length = asks.length := by
  induction asks generalizing m n l with
  | nil => rfl
  | cons a asks ih => rw [getEach_cons, List.length_cons, List.length_cons, ih]

theorem getEach_requests (key : CacheKey) (m : Memory α) (asks : List (Ask ε α)) (n : Nat) (l : Ledger) :
    answersFor key asks (m.getEach (requests asks n) l).1 = (serve (m.held? key) (callsFor key asks n)).1 ∧
      (m.getEach (requests asks n) l).2.2.numbers key =
        l.numbers key ++ (serve (m.held? key) (callsFor key asks n)).2 := by
  induction asks generalizing m n l with
  | nil => cases hv : m.held? key <;> simp [answersFor, requests, Memory.getEach, callsFor, serve]
  | cons a asks ih =>
      obtain ⟨hanswers, hnumbers⟩ := ih (m.get (a.request n) l).2.1 (n + 1) (m.get (a.request n) l).2.2
      rw [m.held?_get] at hanswers hnumbers
      rw [getEach_cons, answersFor_cons, callsFor_cons]
      dsimp only
      rw [hanswers, hnumbers]
      by_cases hk : a.key = key
      · subst hk
        rw [if_pos rfl, if_pos rfl, if_pos (show a.key = (a.request n).key from rfl)]
        cases hv : m.held? a.key with
        | some v =>
            rw [Memory.get_of_held (r := a.request n) hv]
            simp [serve, Except.toOption]
        | none =>
            rw [Memory.get_of_not_held (r := a.request n) hv]
            simp [serve, request, Ledger.note]
      · rw [if_neg hk, if_neg hk, if_neg (show key ≠ (a.request n).key from Ne.symm hk)]
        cases hv : m.held? a.key with
        | some v => simp [Memory.get_of_held (r := a.request n) hv]
        | none =>
            rw [Memory.get_of_not_held (r := a.request n) hv]
            simp [request, Ledger.note, Ne.symm hk]

end Ask

/-- Calls at the same time, each with a load of its own, come to the answers, the memory and the loads that they come to
one after the other. At no moment of their round do two loads run for one entry. Where a key holds a value, the calls
for it are given that value and load nothing. Where it holds none, loads run in the order of the calls up to the first
that succeeds: those before it are answered by their own errors, and all behind it by its value. -/
theorem Memory.getAll_requests (m : Memory α) (asks : List (Ask ε α)) :
    let requests := Ask.requests asks 0
    let entered := Round.enterAll m requests
    let all := m.getAll requests .blank
    all = m.getEach requests .blank ∧
    all.1.length = asks.length ∧
    (∀ polled rest t, Round.Passes entered.1 ⟨entered.2, .blank, []⟩ polled rest t →
      (polled ++ rest).Pairwise fun c d =>
        c.place = d.place → ∀ answer answer', c.stage = .loading answer → d.stage ≠ .loading answer') ∧
    ∀ key,
      let calls := Ask.callsFor key asks 0
      let answers := Ask.answersFor key asks all.1
      let loaded := all.2.2.numbers key
      (∀ v, m.held? key = some v → answers = calls.map (fun _ => .ok v) ∧ loaded = []) ∧
      (m.held? key = none → (∀ a ∈ calls, a.1.Fails) →
        answers = calls.map (·.1.outcome) ∧ loaded = calls.map (·.2)) ∧
      (m.held? key = none → ∀ failed a later v, calls = failed ++ a :: later → (∀ f ∈ failed, f.1.Fails) →
        a.1.outcome = .ok v →
          answers = failed.map (·.1.outcome) ++ .ok v :: later.map (fun _ => .ok v) ∧
            loaded = failed.map (·.2) ++ [a.2]) := by
  intro requests entered all
  have hall : all = m.getEach requests .blank := m.getAll_of_commute (Ask.commute_requests asks 0) .blank
  refine ⟨hall, hall ▸ Ask.length_getEach m asks 0 .blank, ?_, ?_⟩
  · intro polled rest t h
    exact h.loading fun c hc => (Round.of_mem_enterAll hc).1
  · intro key calls answers loaded
    have hserve : answers = (Ask.serve (m.held? key) calls).1 ∧ loaded = (Ask.serve (m.held? key) calls).2 := by
      have heach := Ask.getEach_requests key m asks 0 .blank
      rw [← hall] at heach
      exact heach
    rw [hserve.1, hserve.2]
    refine ⟨?_, ?_, ?_⟩
    · intro v hv
      simp [hv, Ask.serve_some]
    · intro hnone hfail
      have hrest := Ask.serve_append hfail []
      rw [List.append_nil] at hrest
      simp [hnone, hrest, Ask.serve]
    · rintro hnone failed ⟨a, number⟩ later v hcalls hfailed ha
      dsimp only at ha
      simp [hnone, hcalls, Ask.serve_append hfailed, Ask.serve, ha, Except.toOption, Ask.serve_some]

end FlagSheet
