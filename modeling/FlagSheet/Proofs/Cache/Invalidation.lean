import FlagSheet.Proofs.Cache.Interleaving

namespace FlagSheet.Interleaving

variable {ε α : Type} {s t u : State ε α} {move : Move ε α} {moves : List (Move ε α)} {key : CacheKey} {tag : String}
  {i j n l p : Nat} {c d : Call ε α} {e : Entry α} {v : α}

theorem Run.call_kept (h : Run s moves t) (hc : s.calls[i]? = some c) :
    ∃ d, t.calls[i]? = some d ∧ d.key = c.key ∧ d.place = c.place := by
  induction h with
  | nil => exact ⟨c, hc, rfl, rfl⟩
  | snoc h hm ih =>
      obtain ⟨d, hd, hkey, hplace⟩ := ih
      obtain ⟨d', hd', hkey', hplace'⟩ := hm.call_kept hd
      exact ⟨d', hd', hkey'.trans hkey, hplace'.trans hplace⟩

theorem Run.opened {s₀ : State ε α} (h : Run s₀ moves s) (hs : s₀.memory.entries = [])
    (he : s.memory.entries[p]? = some e) : .enter e.key e.tags ∈ moves := by
  induction h generalizing e with
  | nil => simp [hs] at he
  | @snoc moves t u move h hm ih =>
      cases het : t.memory.entries[p]? with
      | some e' =>
          obtain ⟨e'', he'', hkey, htags, -⟩ := hm.entry_kept het
          obtain rfl : e'' = e := Option.some.inj (he''.symm.trans he)
          rw [hkey, htags]
          exact List.mem_append_left _ (ih het)
      | none =>
          rw [hm.opened he (List.getElem?_eq_none_iff.1 het)]
          exact List.mem_append_right _ (List.mem_singleton_self _)

def Placed (s : State ε α) : Prop :=
  ∀ (i : Nat) (c : Call ε α), s.calls[i]? = some c → ∃ e : Entry α, s.memory.entries[c.place]? = some e ∧ e.key = c.key

theorem Placed.step (h : Placed s) (hm : Step s move t) : Placed t := by
  intro i c hc
  rcases hm.call_before hc with ⟨d, hd, hkey, hplace⟩ | ⟨-, hfind⟩
  · obtain ⟨e, he, hek⟩ := h i d hd
    obtain ⟨e', he', hek', -⟩ := hm.entry_kept he
    exact ⟨e', hplace ▸ he', hek'.trans (hek.trans hkey)⟩
  · obtain ⟨e, he, hliving⟩ := Memory.living?_of_find? hfind
    exact ⟨e, he, (Memory.key_of_living? hliving).2.2⟩

theorem Placed.key_eq (h : Placed s) (hc : s.calls[i]? = some c) (hd : s.calls[j]? = some d)
    (hplace : c.place = d.place) : c.key = d.key := by
  obtain ⟨e, he, hek⟩ := h i c hc
  obtain ⟨e', he', hek'⟩ := h j d hd
  rw [hplace, he'] at he
  rw [← hek, ← hek', Option.some.inj he]

theorem Placed.key_of_find? (h : Placed s) (hc : s.calls[i]? = some c) (hfind : s.memory.find? key = some c.place) :
    c.key = key := by
  obtain ⟨e, he, hek⟩ := h i c hc
  obtain ⟨e', he', hliving⟩ := Memory.living?_of_find? hfind
  rw [← hek, Option.some.inj (he.symm.trans he')]
  exact (Memory.key_of_living? hliving).2.2

theorem Run.placed (h : Run s moves t) (hs : Placed s) : Placed t := by
  induction h with
  | nil => exact hs
  | snoc h hm ih => exact ih.step hm

theorem Placed.empty : Placed (State.empty : State ε α) := by
  intro i c hc
  cases hc

/-- A load of the call begins and then ends with the value. -/
def Gave (moves : List (Move ε α)) (i : Nat) (v : α) : Prop :=
  ∃ xs ys, moves = xs ++ ys ∧ .begin i ∈ xs ∧ .finish i (.ok v) ∈ ys

def Loaded (moves : List (Move ε α)) (s : State ε α) (place : Nat) (v : α) : Prop :=
  ∃ i c, s.calls[i]? = some c ∧ c.place = place ∧ Gave moves i v

theorem Loaded.step (h : Loaded moves s p v) (hm : Step s move t) : Loaded (moves ++ [move]) t p v := by
  obtain ⟨i, c, hc, hplace, xs, ys, rfl, hbegin, hfinish⟩ := h
  obtain ⟨d, hd, -, hplace'⟩ := hm.call_kept hc
  exact ⟨i, d, hd, hplace'.trans hplace, xs, ys ++ [move], List.append_assoc .., hbegin, List.mem_append_left _ hfinish⟩

/-- All entries of the key before the place `l` are dead, and the calls from the number `n` on have places behind it,
where nothing is loaded but by these moves. -/
structure Cleared (key : CacheKey) (n l : Nat) (moves : List (Move ε α)) (s : State ε α) : Prop where
  calls : n ≤ s.calls.length
  entries : l ≤ s.memory.entries.length
  dead : ∀ (p : Nat) (e : Entry α), s.memory.entries[p]? = some e → p < l → e.key = key → e.live = false
  apart : ∀ (i : Nat) (c : Call ε α), s.calls[i]? = some c → c.key = key → (n ≤ i ↔ l ≤ c.place)
  loading : ∀ (i : Nat) (c : Call ε α), s.calls[i]? = some c → l ≤ c.place → c.stage = .loading → .begin i ∈ moves
  value : ∀ p v, l ≤ p → s.memory.value? p = some v → Loaded moves s p v
  done : ∀ (i : Nat) (c : Call ε α) (v : α), s.calls[i]? = some c → l ≤ c.place → c.stage = .done (.ok v) →
    Loaded moves s c.place v

theorem le_of_find?
    (hdead : ∀ (p : Nat) (e : Entry α), s.memory.entries[p]? = some e → p < l → e.key = key → e.live = false)
    (hp : s.memory.find? key = some p) : l ≤ p := by
  by_contra hlt
  obtain ⟨e, he, hliving⟩ := Memory.living?_of_find? hp
  obtain ⟨-, hlive, hkey⟩ := Memory.key_of_living? hliving
  rw [hdead p e he (by omega) hkey] at hlive
  cases hlive

theorem Cleared.place_lt_iff (h : Cleared key n l moves s) (hc : s.calls[i]? = some c) (hkey : c.key = key) :
    c.place < l ↔ i < n := by
  rw [← Nat.not_le, ← Nat.not_le, h.apart i c hc hkey]

theorem Cleared.dead_step (h : Cleared key n l moves s) (hm : Step s move t) :
    ∀ (p : Nat) (e : Entry α), t.memory.entries[p]? = some e → p < l → e.key = key → e.live = false := by
  intro p e he hp hkey
  have hlength := h.entries
  obtain ⟨e₀, he₀⟩ : ∃ e₀, s.memory.entries[p]? = some e₀ := ⟨_, List.getElem?_eq_getElem (by omega)⟩
  obtain ⟨e', he', hkey', -, hlive⟩ := hm.entry_kept he₀
  obtain rfl : e' = e := Option.some.inj (he'.symm.trans he)
  have hdead := h.dead p e₀ he₀ hp (hkey'.symm.trans hkey)
  cases hc : e'.live with
  | false => rfl
  | true => exact absurd (hlive hc) (by simp [hdead])

theorem Cleared.value_step (h : Cleared key n l moves s) (hm : Step s move t) (hp : l ≤ p)
    (hv : t.memory.value? p = some v) : Loaded (moves ++ [move]) t p v := by
  rcases hm.value? hv with hv | ⟨j, d, hd, hl, hplace, hmove⟩
  · exact (h.value p v hp hv).step hm
  · obtain ⟨d', hd', -, hplace'⟩ := hm.call_kept hd
    have hbegin := h.loading j d hd (hplace ▸ hp) hl
    exact ⟨j, d', hd', hplace'.trans hplace, moves, [move], rfl, hbegin, by simp [hmove]⟩

theorem Cleared.step (h : Cleared key n l moves s) (hm : Step s move t) : Cleared key n l (moves ++ [move]) t := by
  have hdead := h.dead_step hm
  refine ⟨?_, Nat.le_trans h.entries hm.length_le, hdead, ?_, ?_, fun p v hp hv => h.value_step hm hp hv, ?_⟩
  · refine Nat.le_trans h.calls ?_
    cases hm <;> simp
  · intro i c hc hkey
    rcases hm.call_before hc with ⟨d, hd, hdk, hplace⟩ | ⟨hi, hfind⟩
    · exact hplace ▸ h.apart i d hd (hdk.trans hkey)
    · -- It has entered where the key lives, and no entry before `l` does.
      exact iff_of_true (hi ▸ h.calls) (le_of_find? hdead (hkey ▸ hfind))
  · intro i c hc hp hstage
    cases hm.became hc with
    | kept hc => exact List.mem_append_left _ (h.loading i c hc hp hstage)
    | entered hi hmove hplace hwaiting => cases hwaiting.symm.trans hstage
    | begun hd hmove hc => simp [hmove]
    | hit hd hv hc | finished hd hl hmove hc =>
        subst hc
        cases hstage
  · intro i c v hc hp hstage
    cases hm.became hc with
    | kept hc => exact (h.done i c v hc hp hstage).step hm
    | entered hi hmove hplace hwaiting => cases hwaiting.symm.trans hstage
    | begun hd hmove hc =>
        subst hc
        cases hstage
    | hit hd hv hc =>
        subst hc
        cases hstage
        exact (h.value _ _ hp hv).step hm
    | @finished d answer hd hl hmove hc =>
        subst hc
        cases hstage
        exact ⟨i, _, hc, rfl, moves, [move], rfl, h.loading i d hd hp hl, by simp [hmove]⟩

theorem Run.cleared (h : Run s moves t) (hs : Cleared key n l [] s) : Cleared key n l moves t := by
  induction h with
  | nil => exact hs
  | snoc h hm ih => exact ih.step hm

theorem cleared_invalidate (hs : Placed s) (htags : ∀ e ∈ s.memory.entries, e.key = key → tag ∈ e.tags) :
    Cleared key s.calls.length s.memory.entries.length [] ⟨s.memory.invalidate tag, s.calls⟩ := by
  have hbefore {i : Nat} {c : Call ε α} (hc : s.calls[i]? = some c) : c.place < s.memory.entries.length := by
    obtain ⟨e, he, -⟩ := hs i c hc
    exact (List.getElem?_eq_some_iff.1 he).1
  have hlength : (s.memory.invalidate tag).entries.length = s.memory.entries.length := by simp [Memory.invalidate]
  refine ⟨Nat.le_refl _, Nat.le_of_eq hlength.symm, ?_, ?_, ?_, ?_, ?_⟩
  · intro p e he hp hkey
    simp only [Memory.invalidate, List.getElem?_map] at he
    obtain ⟨e₀, he₀, rfl⟩ := Option.map_eq_some_iff.1 he
    by_cases htag : tag ∈ e₀.tags
    · simp [htag]
    · simp only [htag, if_false] at hkey
      exact absurd (htags e₀ (List.mem_of_getElem? he₀) hkey) htag
  · intro i c hc hkey
    have hi := (List.getElem?_eq_some_iff.1 hc).1
    exact iff_of_false (Nat.not_le.2 hi) (Nat.not_le.2 (hbefore hc))
  · intro i c hc hp
    exact absurd (hbefore hc) (Nat.not_lt.2 hp)
  · intro p v hp hv
    obtain ⟨e, he, -⟩ := Option.bind_eq_some_iff.1 hv
    exact absurd (hlength ▸ (List.getElem?_eq_some_iff.1 he).1) (Nat.not_lt.2 hp)
  · intro i c v hc hp
    exact absurd (hbefore hc) (Nat.not_lt.2 hp)

theorem Placed.answers (hs : Placed s) (hc : s.calls[i]? = some c) (hw : c.stage = .waiting) (hd : s.calls[j]? = some d)
    (hl : d.stage = .loading) (hplace : d.place = c.place) (v : α) :
    ∃ t, Run s [.finish j (.ok v), .hit i] t ∧ t.calls[i]? = some { c with stage := .done (.ok v) } := by
  have hij : j ≠ i := by
    intro hij
    rw [hij, hc] at hd
    rw [Option.some.inj hd, hl] at hw
    cases hw
  have hc' : (s.calls.set j { d with stage := .done (.ok v) })[i]? = some c := by rw [List.getElem?_set_ne hij, hc]
  have hv : (s.memory.publish d.place v).value? c.place = some v := by
    obtain ⟨e, he, -⟩ := hs i c hc
    rw [Memory.value?_publish, if_pos hplace.symm, he, Option.map_some]
  exact ⟨_, (Run.nil.snoc (.finish (.ok v) hd hl)).snoc (.hit hc' hw hv), by simp [List.getElem?_set_self', hc']⟩

/-- After an invalidation, a call that enters is only ever given what has been loaded since, if all calls of its key
pass the tag, and nothing else becomes the value of the key. A load that was under way has a place which no later call
has, and answers those that wait there. -/
theorem loaded_since_invalidate {before after : List (Move ε α)} {s₀ s : State ε α} {key : CacheKey} {tag : String}
    (hbefore : Run .empty before s₀) (hafter : Run ⟨s₀.memory.invalidate tag, s₀.calls⟩ after s)
    (htags : ∀ tags, .enter key tags ∈ before ++ after → tag ∈ tags) :
    (∀ (i : Nat) (c : Call ε α) (v : α), s₀.calls.length ≤ i → s.calls[i]? = some c → c.key = key →
      c.stage = .done (.ok v) →
      ∃ j d, s.calls[j]? = some d ∧ d.key = key ∧ d.place = c.place ∧ Gave after j v) ∧
    (∀ v, s.memory.held? key = some v →
      ∃ j d, s.calls[j]? = some d ∧ d.key = key ∧ s.memory.find? key = some d.place ∧ Gave after j v) ∧
    (∀ (j : Nat) (d : Call ε α), s₀.calls[j]? = some d → d.key = key →
      s.memory.find? key ≠ some d.place ∧
      ∀ (i : Nat) (c : Call ε α), s.calls[i]? = some c → c.place = d.place → i < s₀.calls.length) ∧
    (∀ (i j : Nat) (c d : Call ε α) (v : α), s.calls[i]? = some c → c.stage = .waiting → s.calls[j]? = some d →
      d.stage = .loading → d.place = c.place →
      ∃ t, Run s [.finish j (.ok v), .hit i] t ∧ t.calls[i]? = some { c with stage := .done (.ok v) }) := by
  have hplaced₀ := hbefore.placed .empty
  have hplaced := hafter.placed (hplaced₀.step (.invalidate tag))
  have hcleared : Cleared key s₀.calls.length s₀.memory.entries.length after s := by
    refine hafter.cleared (cleared_invalidate hplaced₀ ?_)
    rintro e he rfl
    obtain ⟨p, he⟩ := List.mem_iff_getElem?.1 he
    exact htags e.tags (List.mem_append_left _ (hbefore.opened rfl he))
  refine ⟨?_, ?_, ?_, ?_⟩
  · intro i c v hi hc hkey hstage
    obtain ⟨j, d, hd, hplace, hgave⟩ := hcleared.done i c v hc ((hcleared.apart i c hc hkey).1 hi) hstage
    exact ⟨j, d, hd, (hplaced.key_eq hd hc hplace).trans hkey, hplace, hgave⟩
  · intro v hv
    obtain ⟨p, hp, hv⟩ := Memory.value?_of_held? hv
    obtain ⟨j, d, hd, rfl, hgave⟩ := hcleared.value p v (le_of_find? hcleared.dead hp) hv
    exact ⟨j, d, hd, hplaced.key_of_find? hd hp, hp, hgave⟩
  · intro j d hd hkey
    obtain ⟨d', hd', hkey', hplace'⟩ := hafter.call_kept hd
    have hlt : d'.place < s₀.memory.entries.length :=
      (hcleared.place_lt_iff hd' (hkey'.trans hkey)).2 (List.getElem?_eq_some_iff.1 hd).1
    rw [← hplace']
    refine ⟨fun hp => Nat.not_lt.2 (le_of_find? hcleared.dead hp) hlt, ?_⟩
    intro i c hc hplace
    have hck : c.key = key := (hplaced.key_eq hc hd' hplace).trans (hkey'.trans hkey)
    exact (hcleared.place_lt_iff hc hck).1 (hplace ▸ hlt)
  · intro i j c d v hc hw hd hl hplace
    exact hplaced.answers hc hw hd hl hplace v

/-- An entry is being loaded when its tag is invalidated, and a second call loads it anew before the first load ends. -/
theorem reloaded_while_loading :
    let key : CacheKey := ⟨"shop", "production"⟩
    let enter : Move Unit Nat := .enter key ["shop"]
    let before := [enter, .begin 0]
    let after := [enter, .begin 1, .finish 0 (.ok 7), .finish 1 (.ok 8)]
    ∃ s₀ s, Run .empty before s₀ ∧ Run ⟨s₀.memory.invalidate "shop", s₀.calls⟩ after s ∧
      (∀ tags, .enter key tags ∈ before ++ after → "shop" ∈ tags) ∧
      s.memory.held? key = some 8 ∧
      ∃ j d, s.calls[j]? = some d ∧ d.key = key ∧ s.memory.find? key = some d.place ∧ Gave after j 8 := by
  intro key enter before after
  have hentered : Run .empty [enter] ⟨⟨[⟨key, ["shop"], none, true⟩]⟩, [⟨key, 0, .waiting⟩]⟩ :=
    Run.nil.snoc (.enter key ["shop"])
  have hbegun : Run .empty before ⟨⟨[⟨key, ["shop"], none, true⟩]⟩, [⟨key, 0, .loading⟩]⟩ :=
    hentered.snoc (.begin (c := ⟨key, 0, .waiting⟩) rfl rfl rfl (by simp))
  have hagain : Run ⟨Memory.invalidate ⟨[⟨key, ["shop"], none, true⟩]⟩ "shop", [⟨key, 0, .loading⟩]⟩ [enter]
      ⟨⟨[⟨key, ["shop"], none, false⟩, ⟨key, ["shop"], none, true⟩]⟩, [⟨key, 0, .loading⟩, ⟨key, 1, .waiting⟩]⟩ :=
    Run.nil.snoc (.enter key ["shop"])
  have hreloaded : Run ⟨Memory.invalidate ⟨[⟨key, ["shop"], none, true⟩]⟩ "shop", [⟨key, 0, .loading⟩]⟩ after
      ⟨⟨[⟨key, ["shop"], some 7, false⟩, ⟨key, ["shop"], some 8, true⟩]⟩,
        [⟨key, 0, .done (.ok 7)⟩, ⟨key, 1, .done (.ok 8)⟩]⟩ :=
    ((hagain.snoc (.begin (c := ⟨key, 1, .waiting⟩) rfl rfl rfl (by simp))).snoc
      (.finish (c := ⟨key, 0, .loading⟩) (.ok 7) rfl rfl)).snoc (.finish (c := ⟨key, 1, .loading⟩) (.ok 8) rfl rfl)
  have htags : ∀ tags, .enter key tags ∈ before ++ after → "shop" ∈ tags := by
    simp [before, after, enter]
  exact ⟨_, _, hbegun, hreloaded, htags, rfl, (loaded_since_invalidate hbegun hreloaded htags).2.1 8 rfl⟩

end FlagSheet.Interleaving
