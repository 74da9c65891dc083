import FlagSheet.Proofs.Cache.Round

namespace FlagSheet

variable {σ τ ε α β γ : Type} {R : σ → τ → Prop}

def Loader.Alike (R : σ → τ → Prop) (l : Loader σ ε α) (l' : Loader τ ε α) : Prop :=
  ∀ s t, R s t → (l s).1 = (l' t).1 ∧ R (l s).2 (l' t).2

structure Request.Alike (R : σ → τ → Prop) (r : Request σ ε α) (r' : Request τ ε α) : Prop where
  key : r.key = r'.key
  tags : r.tags = r'.tags
  load : Loader.Alike R r.load r'.load

def AlikeBut (R : σ → τ → Prop) (x : β × γ × σ) (y : β × γ × τ) : Prop :=
  x.1 = y.1 ∧ x.2.1 = y.2.1 ∧ R x.2.2 y.2.2

namespace Memory

theorem get_alike (m : Memory α) {r : Request σ ε α} {r' : Request τ ε α} (hr : r.Alike R r') {s : σ} {t : τ}
    (hs : R s t) : AlikeBut R (m.get r s) (m.get r' t) := by
  obtain ⟨key, tags, load⟩ := r
  obtain ⟨key', tags', load'⟩ := r'
  obtain ⟨rfl, rfl, hload⟩ : key = key' ∧ tags = tags' ∧ Loader.Alike R load load' := ⟨hr.key, hr.tags, hr.load⟩
  obtain ⟨hanswer, hafter⟩ := hload s t hs
  unfold get
  dsimp only
  cases (m.enter key tags).2.value? (m.enter key tags).1 with
  | some v => exact ⟨rfl, rfl, hs⟩
  | none => exact ⟨hanswer, congrArg (settle _ _) hanswer, hafter⟩

theorem getEach_alike {rs : List (Request σ ε α)} {rs' : List (Request τ ε α)}
    (h : List.Forall₂ (Request.Alike R) rs rs') (m : Memory α) {s : σ} {t : τ} (hs : R s t) :
    AlikeBut R (m.getEach rs s) (m.getEach rs' t) := by
  induction h generalizing m s t with
  | nil => exact ⟨rfl, rfl, hs⟩
  | cons hr _ ih =>
      obtain ⟨hanswer, hmemory, hafter⟩ := m.get_alike hr hs
      obtain ⟨hanswers, hrest⟩ := ih (m.get _ s).2.1 hafter
      unfold getEach
      rw [hmemory] at hanswers hrest
      dsimp only
      rw [hmemory]
      exact ⟨congrArg₂ List.cons hanswer hanswers, hrest⟩

end Memory

namespace Round

structure Call.Alike (R : σ → τ → Prop) (c : Call σ ε α) (d : Call τ ε α) : Prop where
  place : c.place = d.place
  load : Loader.Alike R c.load d.load
  stage : c.stage = d.stage

structure State.Alike (R : σ → τ → Prop) (s : State σ α) (t : State τ α) : Prop where
  memory : s.memory = t.memory
  outside : R s.outside t.outside
  begun : s.begun = t.begun

theorem Call.Alike.poll {c : Call σ ε α} {d : Call τ ε α} (hc : c.Alike R d) {s : State σ α} {t : State τ α}
    (hs : s.Alike R t) : (c.poll s).1.Alike R (d.poll t).1 ∧ (c.poll s).2.Alike R (d.poll t).2 := by
  obtain ⟨place, load, stage⟩ := c
  obtain ⟨place', load', stage'⟩ := d
  obtain ⟨memory, outside, begun⟩ := s
  obtain ⟨memory', outside', begun'⟩ := t
  obtain ⟨rfl, hload, rfl⟩ : place = place' ∧ Loader.Alike R load load' ∧ stage = stage' := ⟨hc.place, hc.load, hc.stage⟩
  obtain ⟨rfl, hout, rfl⟩ : memory = memory' ∧ R outside outside' ∧ begun = begun' := ⟨hs.memory, hs.outside, hs.begun⟩
  obtain ⟨hanswer, hafter⟩ := hload outside outside' hout
  unfold Call.poll
  cases stage with
  | done answer => exact ⟨⟨rfl, hload, rfl⟩, rfl, hout, rfl⟩
  | loading answer => exact ⟨⟨rfl, hload, rfl⟩, rfl, hout, rfl⟩
  | waiting =>
      dsimp only
      cases memory.value? place with
      | some v => exact ⟨⟨rfl, hload, rfl⟩, rfl, hout, rfl⟩
      | none =>
          dsimp only
          split
          · exact ⟨⟨rfl, hload, rfl⟩, rfl, hout, rfl⟩
          · exact ⟨⟨rfl, hload, congrArg Stage.loading hanswer⟩, rfl, hafter, rfl⟩

variable {cs : List (Call σ ε α)} {ds : List (Call τ ε α)}

theorem pollAll_alike (h : List.Forall₂ (Call.Alike R) cs ds) {s : State σ α} {t : State τ α} (hs : s.Alike R t) :
    List.Forall₂ (Call.Alike R) (pollAll cs s).1 (pollAll ds t).1 ∧ (pollAll cs s).2.Alike R (pollAll ds t).2 := by
  induction h generalizing s t with
  | nil => exact ⟨.nil, hs⟩
  | cons hc _ ih =>
      obtain ⟨hpolled, hafter⟩ := hc.poll hs
      obtain ⟨hrest, hend⟩ := ih hafter
      exact ⟨.cons hpolled hrest, hend⟩

theorem weight_alike (h : List.Forall₂ (Call.Alike R) cs ds) : weight cs = weight ds := by
  induction h with
  | nil => rfl
  | cons hc _ ih => rw [weight, weight, hc.stage, ih]

theorem answers_alike (h : List.Forall₂ (Call.Alike R) cs ds) :
    cs.filterMap (·.stage.answer?) = ds.filterMap (·.stage.answer?) := by
  induction h with
  | nil => rfl
  | cons hc _ ih => rw [List.filterMap_cons, List.filterMap_cons, hc.stage, ih]

theorem run_alike (h : List.Forall₂ (Call.Alike R) cs ds) {s : State σ α} {t : State τ α} (hs : s.Alike R t) :
    List.Forall₂ (Call.Alike R) (run cs s).1 (run ds t).1 ∧ (run cs s).2.Alike R (run ds t).2 := by
  induction cs, s using run.induct generalizing ds t with
  | case1 cs s hw =>
      have hw' : weight ds = 0 := weight_alike h ▸ hw
      rw [run, dif_pos hw, run, dif_pos hw']
      exact ⟨h, hs⟩
  | case2 cs s hw _ ih =>
      have hturn : State.Alike R { s with begun := [] } { t with begun := [] } := ⟨hs.memory, hs.outside, rfl⟩
      obtain ⟨hcalls, hstate⟩ := pollAll_alike h hturn
      have hw' : weight ds ≠ 0 := weight_alike h ▸ hw
      rw [run.eq_def cs s, dif_neg hw, run.eq_def ds t, dif_neg hw']
      exact ih hcalls hstate

theorem enterAll_alike {rs : List (Request σ ε α)} {rs' : List (Request τ ε α)}
    (h : List.Forall₂ (Request.Alike R) rs rs') (m : Memory α) :
    List.Forall₂ (Call.Alike R) (enterAll m rs).1 (enterAll m rs').1 ∧ (enterAll m rs).2 = (enterAll m rs').2 := by
  induction h generalizing m with
  | nil => exact ⟨.nil, rfl⟩
  | cons hr _ ih =>
      unfold enterAll
      rw [← hr.key, ← hr.tags]
      obtain ⟨hcalls, hmemory⟩ := ih (m.enter _ _).2
      exact ⟨.cons ⟨rfl, hr.load, rfl⟩ hcalls, hmemory⟩

end Round

theorem Memory.getAll_alike {rs : List (Request σ ε α)} {rs' : List (Request τ ε α)}
    (h : List.Forall₂ (Request.Alike R) rs rs') (m : Memory α) {s : σ} {t : τ} (hs : R s t) :
    AlikeBut R (m.getAll rs s) (m.getAll rs' t) := by
  obtain ⟨hcalls, hmemory⟩ := Round.enterAll_alike h m
  have hstart : Round.State.Alike R ⟨(Round.enterAll m rs).2, s, []⟩ ⟨(Round.enterAll m rs').2, t, []⟩ :=
    ⟨hmemory, hs, rfl⟩
  obtain ⟨hdone, hend⟩ := Round.run_alike hcalls hstart
  exact ⟨Round.answers_alike hdone, hend.memory, hend.outside⟩

end FlagSheet
