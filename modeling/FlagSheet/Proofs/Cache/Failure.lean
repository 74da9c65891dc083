import FlagSheet.Proofs.Cache.Interleaving
import FlagSheet.Proofs.Cache.Lives

namespace FlagSheet

variable {σ ε α : Type}

namespace Interleaving

variable {s t : State ε α} {move : Move ε α} {moves : List (Move ε α)}

theorem Step.distinct (h : Step s move t) (hs : s.memory.Distinct) : t.memory.Distinct := by
  cases h with
  | enter key tags => exact hs.enter key tags
  | hit | begin => exact hs
  | finish answer =>
      cases answer with
      | ok v => exact hs.publish _ v
      | error e => exact hs
  | invalidate tag => exact hs.invalidate tag

theorem Run.distinct (h : Run .empty moves s) : s.memory.Distinct := by
  induction h with
  | nil => exact .nil
  | snoc _ hm ih => exact hm.distinct ih

end Interleaving

namespace Memory

def Same (m m' : Memory α) : Prop := ∀ key, m'.living? key = m.living? key

/-- The second memory has an entry for the key, without a value, where the first one has none. All else is the same. -/
structure Ahead (key : CacheKey) (tags : List String) (m m' : Memory α) : Prop where
  closed : m.living? key = none
  opened : m'.living? key = some ⟨key, tags, none, true⟩
  others : ∀ k, k ≠ key → m'.living? k = m.living? k

namespace Operation

/-- The operation opens an entry for the key, or ends one with these tags. -/
def Meets (key : CacheKey) (tags : List String) : Operation σ ε α → Prop
  | .get r => r.key = key
  | .invalidate tag => tag ∈ tags

/-- The operation calls for the key only with these tags. -/
def Keeps (key : CacheKey) (tags : List String) : Operation σ ε α → Prop
  | .get r => r.key = key → r.tags = tags
  | .invalidate _ => True

end Operation

variable {m m' : Memory α} {key : CacheKey} {tags : List String}

theorem held?_congr (h : m'.living? key = m.living? key) : m'.held? key = m.held? key := by
  rw [held?, held?, h]

theorem get_congr {r : Request σ ε α} (h : m'.held? r.key = m.held? r.key) (s : σ) :
    (m'.get r s).1 = (m.get r s).1 ∧ (m'.get r s).2.2 = (m.get r s).2.2 := by
  cases hv : m.held? r.key with
  | none =>
      rw [get_of_not_held hv, get_of_not_held (h.trans hv)]
      exact ⟨rfl, rfl⟩
  | some v =>
      rw [get_of_held hv, get_of_held (h.trans hv)]
      exact ⟨rfl, rfl⟩

theorem size_of_mem_iff {keys : List CacheKey} (hm : m.Distinct) (hkeys : keys.Nodup)
    (h : ∀ key, m.living? key ≠ none ↔ key ∈ keys) : m.size = keys.length := by
  rw [← length_keys]
  apply List.Perm.length_eq
  rw [List.perm_ext_iff_of_nodup hm.nodup_keys hkeys]
  exact fun key => mem_keys.trans (h key)

theorem Same.size_eq (h : m.Same m') (hm : m.Distinct) (hm' : m'.Distinct) : m'.size = m.size := by
  rw [← m.length_keys]
  apply size_of_mem_iff hm' hm.nodup_keys
  intro key
  rw [h key, mem_keys]

theorem Same.act (h : m.Same m') (hm : m.Distinct) (hm' : m'.Distinct) (s : σ) (op : Operation σ ε α) :
    (m'.act s op).1 = (m.act s op).1 ∧ (m'.act s op).2.2 = (m.act s op).2.2 ∧
      (m.act s op).2.1.Same (m'.act s op).2.1 := by
  cases op with
  | get r =>
      obtain ⟨hanswer, hs⟩ := get_congr (held?_congr (h r.key)) s
      refine ⟨congrArg (Event.answered r.key r.tags) hanswer, hs, ?_⟩
      intro key
      rw [Memory.act, Memory.act, living?_get, living?_get, opened, opened, h r.key, h key, hanswer]
  | invalidate tag =>
      refine ⟨rfl, rfl, ?_⟩
      intro key
      rw [Memory.act, Memory.act, living?_invalidate hm, living?_invalidate hm', h key]

theorem Same.actAll (h : m.Same m') (hm : m.Distinct) (hm' : m'.Distinct) (s : σ) (ops : List (Operation σ ε α)) :
    (m'.actAll s ops).1 = (m.actAll s ops).1 ∧ (m'.actAll s ops).2.2 = (m.actAll s ops).2.2 ∧
      (m.actAll s ops).2.1.Same (m'.actAll s ops).2.1 := by
  induction ops generalizing m m' s with
  | nil => exact ⟨rfl, rfl, h⟩
  | cons op ops ih =>
      obtain ⟨hevent, hs, hsame⟩ := h.act hm hm' s op
      obtain ⟨hevents, hafter, hrest⟩ := ih hsame (hm.act s op) (hm'.act s op) (m.act s op).2.2
      simp only [Memory.actAll, hevent, hs]
      exact ⟨congrArg _ hevents, hafter, hrest⟩

theorem Ahead.size_eq (h : Ahead key tags m m') (hm : m.Distinct) (hm' : m'.Distinct) : m'.size = m.size + 1 := by
  have hnew : key ∉ m.keys := by
    rw [mem_keys, h.closed]
    exact fun hne => hne rfl
  rw [← m.length_keys, ← List.length_cons (a := key)]
  apply size_of_mem_iff hm' (List.nodup_cons.2 ⟨hnew, hm.nodup_keys⟩)
  intro k
  rw [List.mem_cons, mem_keys]
  by_cases hk : k = key
  · subst hk
    simp [h.opened]
  · rw [h.others k hk]
    exact (or_iff_right hk).symm

theorem Ahead.held? (h : Ahead key tags m m') (k : CacheKey) : m'.held? k = m.held? k := by
  by_cases hk : k = key
  · subst hk
    rw [Memory.held?, Memory.held?, h.opened, h.closed]
    rfl
  · exact held?_congr (h.others k hk)

section Get

variable {r : Request σ ε α} {s : σ}

theorem Ahead.same_get (h : Ahead r.key r.tags m m') : (m.get r s).2.1.Same (m'.get r s).2.1 := by
  have hanswer := (get_congr (h.held? r.key) s).1
  intro k
  rw [living?_get, living?_get, hanswer, Memory.opened, Memory.opened, h.closed, h.opened]
  by_cases hk : k = r.key
  · rw [if_pos hk, if_pos hk]
    rfl
  · rw [if_neg hk, if_neg hk, h.others k hk]

theorem Ahead.get (h : Ahead key tags m m') (hkey : r.key ≠ key) :
    Ahead key tags (m.get r s).2.1 (m'.get r s).2.1 := by
  have hanswer := (get_congr (h.held? r.key) s).1
  refine ⟨?_, ?_, ?_⟩
  · rw [living?_get, if_neg hkey.symm, h.closed]
  · rw [living?_get, if_neg hkey.symm, h.opened]
  · intro k hk
    rw [living?_get, living?_get, hanswer, Memory.opened, Memory.opened, h.others r.key hkey, h.others k hk]

end Get

section Invalidate

variable {tag : String}

theorem Ahead.same_invalidate (h : Ahead key tags m m') (hm : m.Distinct) (hm' : m'.Distinct) (htag : tag ∈ tags) :
    (m.invalidate tag).Same (m'.invalidate tag) := by
  intro k
  rw [living?_invalidate hm, living?_invalidate hm']
  by_cases hk : k = key
  · subst hk
    simp [h.closed, h.opened, Option.filter, htag]
  · rw [h.others k hk]

theorem Ahead.invalidate (h : Ahead key tags m m') (hm : m.Distinct) (hm' : m'.Distinct) (htag : tag ∉ tags) :
    Ahead key tags (m.invalidate tag) (m'.invalidate tag) := by
  refine ⟨?_, ?_, ?_⟩
  · rw [living?_invalidate hm, h.closed]
    rfl
  · rw [living?_invalidate hm', h.opened, Option.filter_some_pos (by simpa using htag)]
  · intro k hk
    rw [living?_invalidate hm, living?_invalidate hm', h.others k hk]

end Invalidate

theorem Ahead.act (h : Ahead key tags m m') (hm : m.Distinct) (hm' : m'.Distinct) (s : σ) {op : Operation σ ε α}
    (hkeeps : op.Keeps key tags) :
    (m'.act s op).1 = (m.act s op).1 ∧ (m'.act s op).2.2 = (m.act s op).2.2 ∧
      (op.Meets key tags → (m.act s op).2.1.Same (m'.act s op).2.1) ∧
      (¬ op.Meets key tags → Ahead key tags (m.act s op).2.1 (m'.act s op).2.1) := by
  cases op with
  | get r =>
      obtain ⟨hanswer, hs⟩ := get_congr (h.held? r.key) s
      refine ⟨congrArg (Event.answered r.key r.tags) hanswer, hs, ?_, fun hkey => h.get hkey⟩
      rintro rfl
      obtain rfl : r.tags = tags := hkeeps rfl
      exact h.same_get
  | invalidate tag =>
      exact ⟨rfl, rfl, fun htag => h.same_invalidate hm hm' htag, fun htag => h.invalidate hm hm' htag⟩

theorem Ahead.actAll (h : Ahead key tags m m') (hm : m.Distinct) (hm' : m'.Distinct) (s : σ)
    {ops : List (Operation σ ε α)} (hkeeps : ∀ op ∈ ops, op.Keeps key tags) :
    (m'.actAll s ops).1 = (m.actAll s ops).1 ∧ (m'.actAll s ops).2.2 = (m.actAll s ops).2.2 ∧
      ((∃ op ∈ ops, op.Meets key tags) → (m.actAll s ops).2.1.Same (m'.actAll s ops).2.1) ∧
      ((¬ ∃ op ∈ ops, op.Meets key tags) → Ahead key tags (m.actAll s ops).2.1 (m'.actAll s ops).2.1) := by
  induction ops generalizing m m' s with
  | nil => exact ⟨rfl, rfl, by simp, fun _ => h⟩
  | cons op ops ih =>
      rw [List.forall_mem_cons] at hkeeps
      obtain ⟨hevent, hs, hmeets, hahead⟩ := h.act hm hm' s hkeeps.1
      have hact := hm.act s op
      have hact' := hm'.act s op
      simp only [Memory.actAll, hevent, hs, List.exists_mem_cons_iff]
      by_cases hop : op.Meets key tags
      · obtain ⟨hevents, hafter, hsame⟩ := (hmeets hop).actAll hact hact' (m.act s op).2.2 ops
        exact ⟨congrArg _ hevents, hafter, fun _ => hsame, fun hnone => absurd (.inl hop) hnone⟩
      · obtain ⟨hevents, hafter, hsame, hrest⟩ := ih (hahead hop) hact hact' (m.act s op).2.2 hkeeps.2
        refine ⟨congrArg _ hevents, hafter, ?_, ?_⟩
        · exact fun hsome => hsame (hsome.resolve_left hop)
        · exact fun hnone => hrest fun hsome => hnone (.inr hsome)

/-- What operations show: how they are answered, what they do outside, and the size they lead to. -/
def seen (m : Memory α) (s : σ) (ops : List (Operation σ ε α)) : List (Event ε α) × σ × Nat :=
  ((m.actAll s ops).1, (m.actAll s ops).2.2, (m.actAll s ops).2.1.size)

theorem Same.seen_eq (h : m.Same m') (hm : m.Distinct) (hm' : m'.Distinct) (s : σ) (ops : List (Operation σ ε α)) :
    m'.seen s ops = m.seen s ops := by
  obtain ⟨hevents, hs, hsame⟩ := h.actAll hm hm' s ops
  rw [seen, hevents, hs, hsame.size_eq (hm.actAll s ops) (hm'.actAll s ops)]
  rfl

theorem Ahead.seen_eq (h : Ahead key tags m m') (hm : m.Distinct) (hm' : m'.Distinct) (s : σ)
    {ops : List (Operation σ ε α)} (hkeeps : ∀ op ∈ ops, op.Keeps key tags) :
    ((∃ op ∈ ops, op.Meets key tags) → m'.seen s ops = m.seen s ops) ∧
      ((¬ ∃ op ∈ ops, op.Meets key tags) →
        m'.seen s ops = ((m.seen s ops).1, (m.seen s ops).2.1, (m.seen s ops).2.2 + 1)) := by
  obtain ⟨hevents, hs, hmeets, hahead⟩ := h.actAll hm hm' s hkeeps
  have hdistinct := hm.actAll s ops
  have hdistinct' := hm'.actAll s ops
  constructor
  · intro hop
    rw [seen, hevents, hs, (hmeets hop).size_eq hdistinct hdistinct']
    rfl
  · intro hop
    rw [seen, hevents, hs, (hahead hop).size_eq hdistinct hdistinct']
    rfl

theorem answers_reload {first second : Request σ ε α} {v : α} {s : σ} (hm : m.Distinct)
    (hheld : m.held? first.key = none) (hload : (first.load s).1 = .ok v) (hkey : second.key = first.key)
    (tag : String) :
    (m.actAll s [.get first, .invalidate tag, .get second]).1 =
      [.answered first.key first.tags (.ok v), .invalidated tag, .answered first.key second.tags
        (if tag ∈ (m.opened first.key first.tags).tags then (second.load (first.load s).2).1 else .ok v)] := by
  have hanswer : (m.get first s).1 = .ok v := by rw [get_of_not_held hheld, hload]
  have hafter : (m.get first s).2.2 = (first.load s).2 := by rw [get_of_not_held hheld]
  have hliving : ((m.get first s).2.1.invalidate tag).living? second.key =
      (some { m.opened first.key first.tags with value := some v }).filter fun e => tag ∉ e.tags := by
    rw [living?_invalidate (hm.get first s), living?_get, if_pos hkey, hanswer]
    rfl
  have hlast : (((m.get first s).2.1.invalidate tag).get second (first.load s).2).1 =
      if tag ∈ (m.opened first.key first.tags).tags then (second.load (first.load s).2).1 else .ok v := by
    by_cases htag : tag ∈ (m.opened first.key first.tags).tags
    · rw [if_pos htag, get_of_not_held]
      rw [Memory.held?, hliving]
      simp [Option.filter, htag]
    · rw [if_neg htag, get_of_held]
      rw [Memory.held?, hliving]
      simp [Option.filter, htag]
  simp only [Memory.actAll, Memory.act, hanswer, hafter, hlast, hkey]

theorem get_of_failed {r : Request σ ε α} {s : σ} {e : ε} (h : (m.get r s).1 = .error e) :
    (m.living? r.key = none → Ahead r.key r.tags m (m.get r s).2.1) ∧
      (m.living? r.key ≠ none → m.Same (m.get r s).2.1) := by
  constructor
  · intro hclosed
    refine ⟨hclosed, ?_, ?_⟩
    · rw [living?_get, if_pos rfl, h, opened, hclosed]
      rfl
    · intro k hk
      rw [living?_get, if_neg hk]
  · intro hopen k
    obtain ⟨entry, hentry⟩ := Option.ne_none_iff_exists'.1 hopen
    rw [living?_get, h, opened, hentry]
    by_cases hk : k = r.key
    · -- A call loads only into an entry without a value, and one that fails leaves it so.
      have hvalue : entry.value = none := by
        cases hv : entry.value with
        | none => rfl
        | some v =>
            have hheld : m.held? r.key = some v := by rw [Memory.held?, hentry, Option.bind_some, hv]
            rw [get_of_held hheld] at h
            cases h
      subst hk
      rw [if_pos rfl, hentry, Option.getD_some, Except.toOption, ← hvalue]
    · rw [if_neg hk]

/-- A call that fails leaves a trace just when no entry of its key lives. Then the size tells of the entry that it has
opened, until the key is called for again or one of the tags is invalidated, and calls for the key that come with the
tags of the failed one are answered as if it had not been made. The next value of the key, however, goes with these tags
whatever the tags of the call that loads it, so an invalidation of one of the latter can leave the value in place. -/
theorem get_failed {moves : List (Interleaving.Move ε α)} {calls : List (Interleaving.Call ε α)}
    (hrun : Interleaving.Run .empty moves ⟨m, calls⟩) {r : Request σ ε α} {s : σ} {e : ε}
    (hfailed : (m.get r s).1 = .error e) :
    let m' := (m.get r s).2.1
    ((∀ (ops : List (Operation σ ε α)) t, m'.seen t ops = m.seen t ops) ↔ m.living? r.key ≠ none) ∧
      (m.living? r.key = none →
        (∀ (ops : List (Operation σ ε α)) t, (∀ op ∈ ops, op.Keeps r.key r.tags) →
          ((∃ op ∈ ops, op.Meets r.key r.tags) → m'.seen t ops = m.seen t ops) ∧
            ((¬ ∃ op ∈ ops, op.Meets r.key r.tags) →
              m'.seen t ops = ((m.seen t ops).1, (m.seen t ops).2.1, (m.seen t ops).2.2 + 1))) ∧
        ∀ (first second : Request σ ε α) v t tag, first.key = r.key → second.key = r.key →
          (first.load t).1 = .ok v →
          let reload (tags : List String) : List (Event ε α) :=
            [.answered r.key first.tags (.ok v), .invalidated tag, .answered r.key second.tags
              (if tag ∈ tags then (second.load (first.load t).2).1 else .ok v)]
          (m.actAll t [.get first, .invalidate tag, .get second]).1 = reload first.tags ∧
            (m'.actAll t [.get first, .invalidate tag, .get second]).1 = reload r.tags) := by
  have hm : m.Distinct := hrun.distinct
  have hm' : (m.get r s).2.1.Distinct := hm.get r s
  obtain ⟨hahead, hsame⟩ := get_of_failed hfailed
  refine ⟨⟨?_, fun hopen ops t => (hsame hopen).seen_eq hm hm' t ops⟩, ?_⟩
  · intro hseen hclosed
    have hsize : (m.get r s).2.1.size = m.size := congrArg (·.2.2) (hseen [] s)
    rw [(hahead hclosed).size_eq hm hm'] at hsize
    omega
  · intro hclosed
    have htrace := hahead hclosed
    refine ⟨fun ops t hkeeps => htrace.seen_eq hm hm' t hkeeps, ?_⟩
    intro first second v t tag hfirst hsecond hload
    have hheld : m.held? r.key = none := by
      rw [Memory.held?, hclosed]
      rfl
    rw [← hfirst] at hheld hsecond
    have hplain := answers_reload hm hheld hload hsecond tag
    have htraced := answers_reload hm' ((htrace.held? _).trans hheld) hload hsecond tag
    rw [opened, hfirst, hclosed] at hplain
    rw [opened, hfirst, htrace.opened] at htraced
    exact ⟨hplain, htraced⟩

/-- A failed call has left its tag behind, and the next value outlives the invalidation of the tag it is loaded with. -/
theorem get_failed_draft :
    let site : CacheKey := ⟨"web", "production"⟩
    let failing : Request Unit String Nat := ⟨site, ["draft"], fun s => (.error "timeout", s)⟩
    let first : Request Unit String Nat := ⟨site, ["web"], fun s => (.ok 1, s)⟩
    let second : Request Unit String Nat := ⟨site, ["web"], fun s => (.ok 2, s)⟩
    let m : Memory Nat := ⟨[⟨⟨"api", "production"⟩, ["api"], some 7, true⟩]⟩
    ∃ (moves : List (Interleaving.Move String Nat)) (calls : List (Interleaving.Call String Nat)),
      Interleaving.Run .empty moves ⟨m, calls⟩ ∧ (m.get failing ()).1 = .error "timeout" ∧ m.living? site = none ∧
      (m.actAll () [.get first, .invalidate "web", .get second]).1 =
        [.answered site ["web"] (.ok 1), .invalidated "web", .answered site ["web"] (.ok 2)] ∧
      ((m.get failing ()).2.1.actAll () [.get first, .invalidate "web", .get second]).1 =
        [.answered site ["web"] (.ok 1), .invalidated "web", .answered site ["web"] (.ok 1)] := by
  intro site failing first second m
  let api : CacheKey := ⟨"api", "production"⟩
  let enter : Interleaving.Move String Nat := .enter api ["api"]
  have hentered : Interleaving.Run .empty [enter] ⟨⟨[⟨api, ["api"], none, true⟩]⟩, [⟨api, 0, .waiting⟩]⟩ :=
    Interleaving.Run.nil.snoc (.enter api ["api"])
  have hloaded : Interleaving.Run .empty [enter, .begin 0, .finish 0 (.ok 7)] ⟨m, [⟨api, 0, .done (.ok 7)⟩]⟩ :=
    (hentered.snoc (.begin (c := ⟨api, 0, .waiting⟩) rfl rfl rfl (by simp))).snoc
      (.finish (c := ⟨api, 0, .loading⟩) (.ok 7) rfl rfl)
  have hfailed : (m.get failing ()).1 = .error "timeout" := rfl
  have hclosed : m.living? site = none := by decide
  obtain ⟨-, hreload⟩ := (get_failed hloaded hfailed).2 hclosed
  exact ⟨_, _, hloaded, hfailed, hclosed, hreload first second 1 () "web" rfl rfl rfl⟩

end Memory

end FlagSheet
