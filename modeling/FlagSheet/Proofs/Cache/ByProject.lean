import FlagSheet.Proofs.Cache.Round

namespace FlagSheet

variable {σ ε α : Type}

namespace Round

theorem Polled.keeps {P : Memory α → Prop} (hpublish : ∀ m place v, P m → P (m.publish place v))
    {c c' : Call σ ε α} {s s' : State σ α} (h : Polled c s c' s') (hs : P s.memory) : P s'.memory := by
  cases h with
  | rests | shares | waits | begins => exact hs
  | @answers answer hc =>
      cases answer with
      | error failure => exact hs
      | ok v => exact hpublish _ _ _ hs

theorem Passes.keeps {P : Memory α → Prop} (hpublish : ∀ m place v, P m → P (m.publish place v))
    {cs polled rest : List (Call σ ε α)} {s t : State σ α} (h : Passes cs s polled rest t) (hs : P s.memory) :
    P t.memory := by
  induction h with
  | start => exact hs
  | poll _ ih => exact (polled_poll _ _).keeps hpublish ih
  | turn _ ih => exact ih

theorem enterAll_keeps {P : Memory α → Prop} {rs : List (Request σ ε α)}
    (henter : ∀ r ∈ rs, ∀ m : Memory α, P m → P (m.enter r.key r.tags).2) {m : Memory α} (hm : P m) :
    P (enterAll m rs).2 := by
  induction rs generalizing m with
  | nil => exact hm
  | cons r rs ih =>
      rw [List.forall_mem_cons] at henter
      exact ih henter.2 (henter.1 m hm)

end Round

namespace Memory

theorem getAll_keeps {P : Memory α → Prop} {rs : List (Request σ ε α)}
    (henter : ∀ r ∈ rs, ∀ m : Memory α, P m → P (m.enter r.key r.tags).2)
    (hpublish : ∀ m place v, P m → P (m.publish place v)) {m : Memory α} (hm : P m) (s : σ) :
    P (m.getAll rs s).2.1 :=
  (Round.Passes.run (s := ⟨(Round.enterAll m rs).2, s, []⟩) .start).keeps hpublish (Round.enterAll_keeps henter hm)

theorem Tagged.enter {m : Memory α} (h : m.Tagged) (key : CacheKey) : (m.enter key [key.project]).2.Tagged := by
  intro k e he
  rw [living?_enter] at he
  by_cases hk : k = key
  · subst hk
    rw [if_pos rfl] at he
    cases he
    rw [opened]
    cases hm : m.living? k with
    | none => rfl
    | some e => exact h k e hm
  · rw [if_neg hk] at he
    exact h k e he

theorem Tagged.publish {m : Memory α} (h : m.Tagged) (place : Nat) (v : α) : (m.publish place v).Tagged := by
  intro key e he
  obtain ⟨p, hp, hentry⟩ := Option.bind_eq_some_iff.1 ((living?_eq_find? _ _).symm.trans he)
  rw [find?_publish] at hp
  obtain ⟨e', he', hliving⟩ := living?_of_find? hp
  rw [Memory.publish, List.getElem?_modify, he'] at hentry
  have htags := h key e' hliving
  cases hentry
  split <;> exact htags

end Memory

theorem Cache.ByProject.getAll {c : Cache α} (h : c.ByProject) {rs : List (Request σ ε α)}
    (hrs : ∀ r ∈ rs, r.tags = [r.key.project]) (s : σ) : (c.getAll rs s).2.1.ByProject := by
  cases h with
  | off => exact .off
  | @memory m distinct tagged =>
      have hkeeps : (m.getAll rs s).2.1.Distinct ∧ (m.getAll rs s).2.1.Tagged := by
        refine Memory.getAll_keeps (P := fun m => m.Distinct ∧ m.Tagged) ?_ ?_ ⟨distinct, tagged⟩ s
        · intro r hr m hm
          rw [hrs r hr]
          exact ⟨hm.1.enter r.key _, hm.2.enter r.key⟩
        · intro m place v hm
          exact ⟨hm.1.publish place v, hm.2.publish place v⟩
      exact .memory hkeeps.1 hkeeps.2

end FlagSheet
