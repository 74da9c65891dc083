import FlagSheet.Cache.Round
import FlagSheet.Proofs.Cache.Place

namespace FlagSheet

variable {σ ε α : Type}

/-- The loads may run in either order. -/
def Loader.Commute (l l' : Loader σ ε α) : Prop :=
  ∀ s, (l (l' s).2).1 = (l s).1 ∧ (l' (l s).2).1 = (l' s).1 ∧ (l (l' s).2).2 = (l' (l s).2).2

namespace Round

def Call.Over (c : Call σ ε α) : Prop := ∃ answer, c.stage = .done answer

def Call.complete (c : Call σ ε α) (m : Memory α) (s : σ) : Except ε α × Memory α × σ :=
  match c.stage with
  | .done answer => (answer, m, s)
  | .loading answer => (answer, m.settle c.place answer, s)
  | .waiting =>
    match m.value? c.place with
    | some v => (.ok v, m, s)
    | none => ((c.load s).1, m.settle c.place (c.load s).1, (c.load s).2)

/-- Brings calls to their ends one after the other, each from where it stands. -/
def finish : List (Call σ ε α) → Memory α → σ → List (Except ε α) × Memory α × σ
  | [], m, s => ([], m, s)
  | c :: cs, m, s =>
    let (answer, m, s) := c.complete m s
    let (answers, m, s) := finish cs m s
    (answer :: answers, m, s)

section Finish

variable {c : Call σ ε α} {cs ds : List (Call σ ε α)} {m : Memory α} {s : σ} {p : Nat}

theorem finish_append : finish (cs ++ ds) m s =
    ((finish cs m s).1 ++ (finish ds (finish cs m s).2.1 (finish cs m s).2.2).1,
      (finish ds (finish cs m s).2.1 (finish cs m s).2.2).2) := by
  induction cs generalizing m s with
  | nil => rfl
  | cons c cs ih => simp only [List.cons_append, finish, ih]

theorem value?_finish (h : ∀ c ∈ cs, c.place = p → c.Over ∨ (c.stage = .waiting ∧ m.value? p ≠ none)) :
    (finish cs m s).2.1.value? p = m.value? p := by
  induction cs generalizing m s with
  | nil => rfl
  | cons c cs ih =>
      rw [List.forall_mem_cons] at h
      have hc : (c.complete m s).2.1.value? p = m.value? p := by
        by_cases hp : c.place = p
        · obtain ⟨answer, hdone⟩ | ⟨hwaiting, hv⟩ := h.1 hp
          · simp [Call.complete, hdone]
          · obtain ⟨v, hv⟩ := Option.ne_none_iff_exists'.1 hv
            simp [Call.complete, hwaiting, hp, hv]
        · unfold Call.complete
          cases c.stage with
          | done answer => rfl
          | loading answer => exact Memory.value?_settle_of_ne _ (Ne.symm hp)
          | waiting =>
              dsimp only
              cases m.value? c.place with
              | some v => rfl
              | none => exact Memory.value?_settle_of_ne _ (Ne.symm hp)
      rw [← hc] at h
      exact (ih h.2).trans hc

theorem finish_settle (answer : Except ε α) (h : ∀ c ∈ cs, c.place = p → c.Over) :
    finish cs (m.settle p answer) s =
      ((finish cs m s).1, (finish cs m s).2.1.settle p answer, (finish cs m s).2.2) := by
  induction cs generalizing m s with
  | nil => rfl
  | cons c cs ih =>
      rw [List.forall_mem_cons] at h
      have hc : c.complete (m.settle p answer) s =
          ((c.complete m s).1, (c.complete m s).2.1.settle p answer, (c.complete m s).2.2) := by
        by_cases hp : c.place = p
        · obtain ⟨own, hdone⟩ := h.1 hp
          simp [Call.complete, hdone]
        · unfold Call.complete
          cases c.stage with
          | done own => rfl
          | loading own => simp [Memory.settle_comm _ _ hp]
          | waiting =>
              dsimp only
              rw [Memory.value?_settle_of_ne _ hp]
              cases m.value? c.place with
              | some v => rfl
              | none => simp [Memory.settle_comm _ _ hp]
      simp only [finish, hc, ih h.2]

theorem finish_load {l : Loader σ ε α} (h : ∀ c ∈ cs, c.Over ∨ l.Commute c.load) :
    finish cs m (l s).2 = ((finish cs m s).1, (finish cs m s).2.1, (l (finish cs m s).2.2).2) ∧
      (l (finish cs m s).2.2).1 = (l s).1 := by
  induction cs generalizing m s with
  | nil => exact ⟨rfl, rfl⟩
  | cons c cs ih =>
      rw [List.forall_mem_cons] at h
      have hc : c.complete m (l s).2 =
          ((c.complete m s).1, (c.complete m s).2.1, (l (c.complete m s).2.2).2) ∧
          (l (c.complete m s).2.2).1 = (l s).1 := by
        unfold Call.complete
        cases hstage : c.stage with
        | done answer | loading answer => exact ⟨rfl, rfl⟩
        | waiting =>
            dsimp only
            cases m.value? c.place with
            | some v => exact ⟨rfl, rfl⟩
            | none =>
                obtain ⟨answer, hdone⟩ | hcommute := h.1
                · rw [hstage] at hdone; cases hdone
                · obtain ⟨hl, hload, hstate⟩ := hcommute s
                  exact ⟨by simp only [hload, hstate], hl⟩
      obtain ⟨hrest, hanswer⟩ := ih h.2 (m := (c.complete m s).2.1) (s := (c.complete m s).2.2)
      exact ⟨by simp only [finish, hc.1, hrest], hanswer.trans hc.2⟩

theorem finish_over (h : ∀ c ∈ cs, c.Over) : finish cs m s = (cs.filterMap (·.stage.answer?), m, s) := by
  induction cs with
  | nil => rfl
  | cons c cs ih =>
      rw [List.forall_mem_cons] at h
      obtain ⟨⟨answer, hdone⟩, hcs⟩ := h
      simp [finish, Call.complete, hdone, ih hcs, Stage.answer?]

end Finish

inductive Polled (c : Call σ ε α) (s : State σ α) : Call σ ε α → State σ α → Prop
  | rests {answer} (hc : c.stage = .done answer) : Polled c s c s
  | answers {answer} (hc : c.stage = .loading answer) :
      Polled c s { c with stage := .done answer } { s with memory := s.memory.settle c.place answer }
  | shares {v} (hc : c.stage = .waiting) (hv : s.memory.value? c.place = some v) :
      Polled c s { c with stage := .done (.ok v) } s
  | waits (hc : c.stage = .waiting) (hv : s.memory.value? c.place = none) (hb : c.place ∈ s.begun) : Polled c s c s
  | begins (hc : c.stage = .waiting) (hv : s.memory.value? c.place = none) (hb : c.place ∉ s.begun) :
      Polled c s { c with stage := .loading (c.load s.outside).1 }
        { s with outside := (c.load s.outside).2, begun := c.place :: s.begun }

theorem polled_poll (c : Call σ ε α) (s : State σ α) : Polled c s (c.poll s).1 (c.poll s).2 := by
  unfold Call.poll
  cases hc : c.stage with
  | done answer => exact .rests hc
  | loading answer => exact .answers hc
  | waiting =>
      dsimp only
      cases hv : s.memory.value? c.place with
      | some v => exact .shares hc hv
      | none =>
          dsimp only
          split
          · next hb => exact .waits hc hv hb
          · next hb => exact .begins hc hv hb

/-- What holds in the middle of a turn, when some calls have been polled in it and the rest has not. -/
structure Orderly (polled rest : List (Call σ ε α)) (s : State σ α) : Prop where
  inTurn : (polled ++ rest).Pairwise fun c d => c.place = d.place → c.Over ∨ d.stage = .waiting
  loading : ∀ c ∈ polled ++ rest, ∀ answer, c.stage = .loading answer → s.memory.value? c.place = none
  begun : ∀ c ∈ polled, c.Over ∨ (c.place ∈ s.begun ∧ s.memory.value? c.place = none)

def Independent (cs : List (Call σ ε α)) : Prop :=
  ∀ c ∈ cs, ∀ d ∈ cs, c.place ≠ d.place → Loader.Commute c.load d.load

section Poll

variable {c c' : Call σ ε α} {polled rest : List (Call σ ε α)} {s s' : State σ α}

theorem Polled.same (h : Polled c s c' s') : c'.place = c.place ∧ c'.load = c.load := by
  cases h <;> exact ⟨rfl, rfl⟩

theorem Independent.poll (hi : Independent (polled ++ c :: rest)) (h : Polled c s c' s') :
    Independent (polled ++ c' :: rest) := by
  have hold (d) (hd : d ∈ polled ++ c' :: rest) :
      ∃ d' ∈ polled ++ c :: rest, d'.place = d.place ∧ d'.load = d.load := by
    rcases List.mem_append.1 hd with hd | hd
    · exact ⟨d, List.mem_append_left _ hd, rfl, rfl⟩
    · rcases List.mem_cons.1 hd with rfl | hd
      · exact ⟨c, by simp, h.same.1.symm, h.same.2.symm⟩
      · exact ⟨d, by simp [hd], rfl, rfl⟩
  intro d hd e he hne
  obtain ⟨d', hd', hplace, hload⟩ := hold d hd
  obtain ⟨e', he', hplace', hload'⟩ := hold e he
  rw [← hload, ← hload']
  exact hi d' hd' e' he' (by rwa [hplace, hplace'])

theorem Call.not_over_of_loading {answer : Except ε α} (h : c.stage = .loading answer) : ¬c.Over := by
  rintro ⟨own, hown⟩
  rw [h] at hown
  cases hown

theorem Call.not_over_of_waiting (h : c.stage = .waiting) : ¬c.Over := by
  rintro ⟨own, hown⟩
  rw [h] at hown
  cases hown

theorem Orderly.over_of_loading (h : Orderly polled (c :: rest) s) {answer : Except ε α}
    (hc : c.stage = .loading answer) : ∀ d ∈ polled, d.place = c.place → d.Over := by
  intro d hd hplace
  have hturn := (List.pairwise_append.1 h.inTurn).2.2 d hd c List.mem_cons_self hplace
  rw [hc] at hturn
  simpa using hturn

theorem Orderly.over_of_begins (h : Orderly polled (c :: rest) s) (hb : c.place ∉ s.begun) :
    ∀ d ∈ polled, d.place = c.place → d.Over := by
  intro d hd hplace
  obtain hover | ⟨hbegun, -⟩ := h.begun d hd
  · exact hover
  · exact absurd (hplace ▸ hbegun) hb

/-- A poll does not change what the calls will come to. -/
theorem Orderly.finish_poll (h : Orderly polled (c :: rest) s) (hi : Independent (polled ++ c :: rest))
    (hp : Polled c s c' s') :
    finish (polled ++ c' :: rest) s'.memory s'.outside = finish (polled ++ c :: rest) s.memory s.outside := by
  rw [finish_append, finish_append]
  cases hp with
  | rests | waits => rfl
  | @answers answer hc =>
      have hsettle := finish_settle (m := s.memory) (s := s.outside) answer (h.over_of_loading hc)
      simp [hsettle, finish, Call.complete, hc]
  | shares hc hv =>
      -- Nobody before this call is loading for the entry, so its value is still there when its turn comes.
      have hkept : (finish polled s.memory s.outside).2.1.value? c.place = s.memory.value? c.place := by
        apply value?_finish
        intro d hd hplace
        obtain hover | ⟨-, hnone⟩ := h.begun d hd
        · exact .inl hover
        · rw [hplace, hv] at hnone; cases hnone
      rw [hv] at hkept
      simp [finish, Call.complete, hc, hkept]
  | begins hc hv hb =>
      have hover := h.over_of_begins hb
      have hkept : (finish polled s.memory s.outside).2.1.value? c.place = s.memory.value? c.place :=
        value?_finish fun d hd hplace => .inl (hover d hd hplace)
      rw [hv] at hkept
      have hloads : ∀ d ∈ polled, d.Over ∨ Loader.Commute c.load d.load := by
        intro d hd
        by_cases hplace : d.place = c.place
        · exact .inl (hover d hd hplace)
        · exact .inr (hi c (by simp) d (by simp [hd]) (Ne.symm hplace))
      obtain ⟨hstate, hanswer⟩ := finish_load (m := s.memory) (s := s.outside) hloads
      simp [hstate, finish, Call.complete, hc, hkept, hanswer]

theorem Orderly.others (h : Orderly polled (c :: rest) s) :
    ∀ d ∈ polled ++ rest, ∀ answer, d.stage = .loading answer → s.memory.value? d.place = none := by
  intro d hd
  apply h.loading d
  rcases List.mem_append.1 hd with hd | hd <;> simp [hd]

/-- For what a poll makes of a call it is enough to look at the other calls for the same entry. -/
theorem Orderly.replace (h : Orderly polled (c :: rest) s)
    (hbefore : ∀ d ∈ polled, d.place = c'.place → d.Over ∨ c'.stage = .waiting)
    (hafter : ∀ d ∈ rest, c'.place = d.place → c'.Over ∨ d.stage = .waiting)
    (hothers : ∀ d ∈ polled ++ rest, ∀ answer, d.stage = .loading answer → s'.memory.value? d.place = none)
    (hbegun : ∀ d ∈ polled, d.Over ∨ (d.place ∈ s'.begun ∧ s'.memory.value? d.place = none))
    (hown : c'.Over ∨ (c'.place ∈ s'.begun ∧ s'.memory.value? c'.place = none)) :
    Orderly (polled ++ [c']) rest s' where
  inTurn := by
    obtain ⟨hpolled, hrest, hcross⟩ := List.pairwise_append.1 h.inTurn
    rw [List.append_assoc, List.singleton_append]
    refine List.pairwise_append.2 ⟨hpolled, List.pairwise_cons.2 ⟨hafter, (List.pairwise_cons.1 hrest).2⟩, ?_⟩
    intro d hd e he
    rcases List.mem_cons.1 he with rfl | he
    · exact hbefore d hd
    · exact hcross d hd e (List.mem_cons_of_mem _ he)
  loading := by
    intro d hd answer hloading
    rcases List.mem_append.1 hd with hd | hd
    · rcases List.mem_append.1 hd with hd | hd
      · exact hothers d (by simp [hd]) answer hloading
      · rw [List.mem_singleton.1 hd] at hloading ⊢
        exact (hown.resolve_left (Call.not_over_of_loading hloading)).2
    · exact hothers d (by simp [hd]) answer hloading
  begun := by
    intro d hd
    rcases List.mem_append.1 hd with hd | hd
    · exact hbegun d hd
    · rw [List.mem_singleton.1 hd]
      exact hown

theorem Orderly.poll (h : Orderly polled (c :: rest) s) (hp : Polled c s c' s') :
    Orderly (polled ++ [c']) rest s' := by
  obtain ⟨-, hrest, hcross⟩ := List.pairwise_append.1 h.inTurn
  have hbefore (d) (hd : d ∈ polled) := hcross d hd c List.mem_cons_self
  have hafter := (List.pairwise_cons.1 hrest).1
  cases hp with
  | rests hc => exact h.replace hbefore hafter h.others h.begun (.inl ⟨_, hc⟩)
  | waits hc hv hb => exact h.replace hbefore hafter h.others h.begun (.inr ⟨hb, hv⟩)
  | answers hc =>
      -- All other calls for the entry are over or wait, so it may have got a value.
      have hover := h.over_of_loading hc
      refine h.replace (fun d hd hplace => .inl (hover d hd hplace)) (fun d _ _ => .inl ⟨_, rfl⟩) ?_ ?_ (.inl ⟨_, rfl⟩)
      · intro d hd answer hloading
        have hne : d.place ≠ c.place := by
          intro hplace
          rcases List.mem_append.1 hd with hd | hd
          · exact Call.not_over_of_loading hloading (hover d hd hplace)
          · obtain hwaiting := (hafter d hd hplace.symm).resolve_left (Call.not_over_of_loading hc)
            rw [hloading] at hwaiting
            cases hwaiting
        rw [Memory.value?_settle_of_ne _ hne]
        exact h.others d hd answer hloading
      · intro d hd
        by_cases hplace : d.place = c.place
        · exact .inl (hover d hd hplace)
        · rw [Memory.value?_settle_of_ne _ hplace]
          exact h.begun d hd
  | shares hc hv =>
      refine h.replace ?_ (fun d _ _ => .inl ⟨_, rfl⟩) h.others h.begun (.inl ⟨_, rfl⟩)
      intro d hd hplace
      obtain hover | ⟨-, hnone⟩ := h.begun d hd
      · exact .inl hover
      · rw [hplace, hv] at hnone; cases hnone
  | begins hc hv hb =>
      refine h.replace (fun d hd hplace => .inl (h.over_of_begins hb d hd hplace)) ?_ h.others ?_ (.inr ⟨by simp, hv⟩)
      · intro d hd hplace
        exact .inr ((hafter d hd hplace).resolve_left (Call.not_over_of_waiting hc))
      · intro d hd
        exact (h.begun d hd).imp_right fun ⟨hbegun, hnone⟩ => ⟨List.mem_cons_of_mem _ hbegun, hnone⟩

end Poll

end Round

end FlagSheet
