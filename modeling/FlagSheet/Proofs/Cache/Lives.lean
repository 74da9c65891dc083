import FlagSheet.Proofs.Cache.Table
import Mathlib.Data.List.Induction
import Mathlib.Data.Set.Card

namespace FlagSheet

variable {σ ε α : Type}

namespace Memory

inductive Operation (σ ε α : Type) where
  | get (r : Request σ ε α)
  | invalidate (tag : String)

inductive Event (ε α : Type) where
  | answered (key : CacheKey) (tags : List String) (answer : Except ε α)
  | invalidated (tag : String)

def act (m : Memory α) (s : σ) : Operation σ ε α → Event ε α × Memory α × σ
  | .get r => (.answered r.key r.tags (m.get r s).1, (m.get r s).2)
  | .invalidate tag => (.invalidated tag, m.invalidate tag, s)

def actAll (m : Memory α) (s : σ) : List (Operation σ ε α) → List (Event ε α) × Memory α × σ
  | [] => ([], m, s)
  | op :: ops =>
    let (event, m, s) := m.act s op
    let (events, m, s) := m.actAll s ops
    (event :: events, m, s)

theorem actAll_append (m : Memory α) (s : σ) (ops ops' : List (Operation σ ε α)) :
    m.actAll s (ops ++ ops') =
      ((m.actAll s ops).1 ++ ((m.actAll s ops).2.1.actAll (m.actAll s ops).2.2 ops').1,
        ((m.actAll s ops).2.1.actAll (m.actAll s ops).2.2 ops').2) := by
  induction ops generalizing m s with
  | nil => rfl
  | cons op ops ih => simp only [List.cons_append, actAll, ih]

theorem actAll_snoc (m : Memory α) (s : σ) (ops : List (Operation σ ε α)) (op : Operation σ ε α) :
    m.actAll s (ops ++ [op]) =
      ((m.actAll s ops).1 ++ [((m.actAll s ops).2.1.act (m.actAll s ops).2.2 op).1],
        ((m.actAll s ops).2.1.act (m.actAll s ops).2.2 op).2) := actAll_append m s ops [op]

theorem Distinct.act {m : Memory α} (h : m.Distinct) (s : σ) (op : Operation σ ε α) : (m.act s op).2.1.Distinct := by
  cases op with
  | get r => exact h.get r s
  | invalidate tag => exact h.invalidate tag

theorem Distinct.actAll {m : Memory α} (h : m.Distinct) (s : σ) (ops : List (Operation σ ε α)) :
    (m.actAll s ops).2.1.Distinct := by
  induction ops generalizing m s with
  | nil => exact h
  | cons op ops ih => exact ih (h.act s op) _

def keys (m : Memory α) : List CacheKey := (m.entries.filter (·.live)).map (·.key)

theorem mem_keys {m : Memory α} {key : CacheKey} : key ∈ m.keys ↔ m.living? key ≠ none := by
  simp [keys, living?, List.find?_eq_none, and_assoc]

theorem length_keys (m : Memory α) : m.keys.length = m.size := by
  rw [keys, List.length_map, size, List.countP_eq_length_filter]

theorem Distinct.nodup_keys {m : Memory α} (h : m.Distinct) : m.keys.Nodup := by
  rw [keys, List.nodup_iff_pairwise_ne, List.pairwise_map, List.pairwise_filter]
  exact h

theorem size_eq_ncard {m : Memory α} (h : m.Distinct) : m.size = {key | m.living? key ≠ none}.ncard := by
  have hkeys : {key | m.living? key ≠ none} = m.keys.toFinset := by
    ext key
    rw [Set.mem_ofPred_eq, Finset.mem_coe, List.mem_toFinset, mem_keys]
  rw [hkeys, Set.ncard_coe_finset, List.toFinset_card_of_nodup h.nodup_keys, length_keys]

end Memory

/-- What is remembered of an entry since the call that opened it: the tags of this call, and all answers. -/
structure Life (ε α : Type) where
  tags : List String
  answers : List (Except ε α)

namespace Life

open Memory (Event Operation)

variable {key : CacheKey} {past : List (Event ε α)} {l : Life ε α}

def value? (l : Life ε α) : Option α := l.answers.findSome? Except.toOption

theorem findSome?_of_failed {answers : List (Except ε α)} (h : ∀ answer ∈ answers, ∃ e, answer = .error e) :
    answers.findSome? Except.toOption = none := by
  rw [List.findSome?_eq_none_iff]
  intro answer ha
  obtain ⟨e, rfl⟩ := h answer ha
  rfl

theorem value?_snoc (l : Life ε α) (answer : Except ε α) :
    (⟨l.tags, l.answers ++ [answer]⟩ : Life ε α).value? = l.value?.or answer.toOption := by
  rw [value?, List.findSome?_append, value?]
  cases answer <;> rfl

def entry (key : CacheKey) (l : Life ε α) : Entry α := ⟨key, l.tags, l.value?, true⟩

/-- The life of a key behind one more event. A call opens a life where there is none, and an invalidation of one of its
tags ends it. -/
def next (key : CacheKey) (life : Option (Life ε α)) : Event ε α → Option (Life ε α)
  | .answered k tags answer =>
    if k = key then
      match life with
      | none => some ⟨tags, [answer]⟩
      | some l => some ⟨l.tags, l.answers ++ [answer]⟩
    else life
  | .invalidated tag => life.filter (tag ∉ ·.tags)

def open? (key : CacheKey) (past : List (Event ε α)) : Option (Life ε α) := past.foldl (next key) none

theorem open?_snoc (key : CacheKey) (past : List (Event ε α)) (event : Event ε α) :
    open? key (past ++ [event]) = next key (open? key past) event := by
  rw [open?, List.foldl_append]
  rfl

theorem next_none (key : CacheKey) (tags : List String) (answer : Except ε α) :
    next key none (.answered key tags answer) = some ⟨tags, [answer]⟩ := if_pos rfl

theorem next_some (key : CacheKey) (l : Life ε α) (tags : List String) (answer : Except ε α) :
    next key (some l) (.answered key tags answer) = some ⟨l.tags, l.answers ++ [answer]⟩ := if_pos rfl

theorem next_of_ne {k : CacheKey} (hk : k ≠ key) (life : Option (Life ε α)) (tags : List String)
    (answer : Except ε α) : next key life (.answered k tags answer) = life := if_neg hk

theorem next_invalidated (key : CacheKey) (life : Option (Life ε α)) (tag : String) :
    next key life (.invalidated tag) = life.filter (tag ∉ ·.tags) := rfl

def answerFor? (key : CacheKey) : Event ε α → Option (Except ε α)
  | .answered k _ answer => if k = key then some answer else none
  | .invalidated _ => none

def answersFor (key : CacheKey) (events : List (Event ε α)) : List (Except ε α) := events.filterMap (answerFor? key)

theorem answersFor_answered (key : CacheKey) (tags : List String) (answer : Except ε α) (events : List (Event ε α)) :
    answersFor key (.answered key tags answer :: events) = answer :: answersFor key events :=
  List.filterMap_cons_some (if_pos rfl)

theorem answersFor_of_ne {k : CacheKey} (hk : k ≠ key) (tags : List String) (answer : Except ε α)
    (events : List (Event ε α)) : answersFor key (.answered k tags answer :: events) = answersFor key events :=
  List.filterMap_cons_none (if_neg hk)

theorem answersFor_invalidated (key : CacheKey) (tag : String) (events : List (Event ε α)) :
    answersFor key (.invalidated tag :: events) = answersFor key events := rfl

/-- A life goes from a call for the key, at a moment when no life is open, to the next invalidation of a tag of that
call. -/
def Spans (key : CacheKey) (past : List (Event ε α)) (l : Life ε α) : Prop :=
  ∃ before answer span, past = before ++ .answered key l.tags answer :: span ∧ open? key before = none ∧
    (∀ tag, .invalidated tag ∈ span → tag ∉ l.tags) ∧ l.answers = answer :: answersFor key span

theorem foldl_next {span : List (Event ε α)} (l : Life ε α)
    (h : ∀ tag, .invalidated tag ∈ span → tag ∉ l.tags) :
    span.foldl (next key) (some l) = some ⟨l.tags, l.answers ++ answersFor key span⟩ := by
  induction span generalizing l with
  | nil => simp [answersFor]
  | cons event span ih =>
      have hspan : ∀ tag, .invalidated tag ∈ span → tag ∉ l.tags := fun tag hmem => h tag (List.mem_cons_of_mem _ hmem)
      rw [List.foldl_cons]
      cases event with
      | answered k tags answer =>
          by_cases hk : k = key
          · subst hk
            rw [next_some, answersFor_answered, ih ⟨l.tags, l.answers ++ [answer]⟩ hspan, List.append_assoc]
            rfl
          · rw [next_of_ne hk, ih l hspan, answersFor_of_ne hk]
      | invalidated tag =>
          have htag : tag ∉ l.tags := h tag List.mem_cons_self
          rw [next_invalidated, Option.filter_some_pos (by simpa using htag), ih l hspan, answersFor_invalidated]

theorem Spans.snoc (h : Spans key past l) (event : Event ε α)
    (hevent : ∀ tag, event = .invalidated tag → tag ∉ l.tags) :
    Spans key (past ++ [event]) ⟨l.tags, l.answers ++ answersFor key [event]⟩ := by
  obtain ⟨before, answer, span, rfl, hclosed, hspan, hanswers⟩ := h
  refine ⟨before, answer, span ++ [event], by simp, hclosed, ?_, ?_⟩
  · intro tag hmem
    rcases List.mem_append.1 hmem with hmem | hmem
    · exact hspan tag hmem
    · exact hevent tag (List.mem_singleton.1 hmem).symm
  · rw [hanswers, List.cons_append, answersFor, answersFor, answersFor, List.filterMap_append]

theorem spans_of_open? (h : open? key past = some l) : Spans key past l := by
  induction past using List.reverseRecOn generalizing l with
  | nil => cases h
  | append_singleton past event ih =>
      rw [open?_snoc] at h
      cases event with
      | answered k tags answer =>
          by_cases hk : k = key
          · subst hk
            cases hlife : open? k past with
            | none =>
                rw [hlife, next_none] at h
                cases h
                exact ⟨past, answer, [], rfl, hlife, nofun, rfl⟩
            | some l' =>
                rw [hlife, next_some] at h
                cases h
                have hspans := (ih hlife).snoc (.answered k tags answer) nofun
                rw [answersFor_answered] at hspans
                exact hspans
          · rw [next_of_ne hk] at h
            have hspans := (ih h).snoc (.answered k tags answer) nofun
            rw [answersFor_of_ne hk, answersFor, List.filterMap_nil, List.append_nil] at hspans
            exact hspans
      | invalidated tag =>
          obtain ⟨hlife, htag⟩ := Option.filter_eq_some_iff.1 h
          have hspans := (ih hlife).snoc (.invalidated tag) ?_
          · rw [answersFor_invalidated, answersFor, List.filterMap_nil, List.append_nil] at hspans
            exact hspans
          · rintro _ ⟨⟩
            exact of_decide_eq_true htag

theorem open?_eq_some_iff : open? key past = some l ↔ Spans key past l := by
  refine ⟨spans_of_open?, ?_⟩
  rintro ⟨before, answer, span, rfl, hclosed, hspan, hanswers⟩
  obtain ⟨tags, answers⟩ := l
  dsimp only at hspan hanswers
  subst hanswers
  rw [open?, List.foldl_append, List.foldl_cons]
  change span.foldl (next key) (next key (open? key before) (.answered key tags answer)) = _
  rw [hclosed, next_none, foldl_next _ hspan]
  rfl

end Life

namespace Memory

open Life (open?)

theorem living?_actAll (ops : List (Operation σ ε α)) (s : σ) (key : CacheKey) :
    ((∅ : Memory α).actAll s ops).2.1.living? key =
      (open? key ((∅ : Memory α).actAll s ops).1).map (Life.entry key) := by
  induction ops using List.reverseRecOn with
  | nil => rfl
  | append_singleton ops op ih =>
      have hdistinct : ((∅ : Memory α).actAll s ops).2.1.Distinct := Distinct.actAll .nil s ops
      rw [actAll_snoc, Life.open?_snoc]
      dsimp only
      generalize ((∅ : Memory α).actAll s ops).1 = past at ih ⊢
      generalize ((∅ : Memory α).actAll s ops).2.1 = m at ih hdistinct ⊢
      generalize ((∅ : Memory α).actAll s ops).2.2 = t
      cases op with
      | get r =>
          rw [act, living?_get]
          by_cases hk : key = r.key
          · subst hk
            rw [if_pos rfl, opened, ih]
            cases hlife : open? r.key past with
            | none => rw [Life.next_none]; cases (m.get r t).1 <;> rfl
            | some l =>
                have hheld : m.held? r.key = l.value? := by rw [held?, ih, hlife]; rfl
                have hanswer : l.value?.or (m.get r t).1.toOption = (m.get r t).1.toOption := by
                  cases hv : l.value? with
                  | none => rfl
                  | some v => rw [get_of_held (hheld.trans hv)]; rfl
                rw [Life.next_some, Option.map_some, Option.map_some, Option.getD_some, Life.entry, Life.entry,
                  Life.value?_snoc, hanswer]
          · rw [if_neg hk, Life.next_of_ne (Ne.symm hk), ih]
      | invalidate tag =>
          rw [act, living?_invalidate hdistinct, ih, Life.next_invalidated]
          cases open? key past with
          | none => rfl
          | some l => by_cases htag : tag ∈ l.tags <;> simp [Option.filter, Life.entry, htag]

theorem held?_actAll (ops : List (Operation σ ε α)) (s : σ) (key : CacheKey) :
    ((∅ : Memory α).actAll s ops).2.1.held? key = (open? key ((∅ : Memory α).actAll s ops).1).bind Life.value? := by
  rw [held?, living?_actAll]
  cases open? key ((∅ : Memory α).actAll s ops).1 <;> rfl

/-- Behind any operations, everything a memory does is told by the lives that are open. A call loads exactly when no
call of the open life of its key has been answered with a value, and otherwise repeats the first value it has been
answered with; an invalidation ends exactly the lives that were opened with its tag, and the size counts the lives. -/
theorem actAll_lives (ops : List (Operation σ ε α)) (start : σ) :
    let (past, m, s) := (∅ : Memory α).actAll start ops
    (∀ key l, open? key past = some l ↔ Life.Spans key past l) ∧
      (∀ r : Request σ ε α, (∀ l, open? r.key past = some l → ∀ answer ∈ l.answers, ∃ e, answer = .error e) →
        (m.get r s).1 = (r.load s).1 ∧ (m.get r s).2.2 = (r.load s).2) ∧
      (∀ (r : Request σ ε α) l failed v later, open? r.key past = some l → l.answers = failed ++ .ok v :: later →
        (∀ answer ∈ failed, ∃ e, answer = .error e) → m.get r s = (.ok v, m, s)) ∧
      (∀ tag key, (m.invalidate tag).living? key =
        if ∃ l, open? key past = some l ∧ tag ∈ l.tags then none else m.living? key) ∧
      (∀ key, m.living? key ≠ none ↔ ∃ l, open? key past = some l) ∧
      m.size = {key | ∃ l, open? key past = some l}.ncard := by
  have hdistinct : ((∅ : Memory α).actAll start ops).2.1.Distinct := Distinct.actAll .nil start ops
  have hheld := held?_actAll ops start
  have hliving := living?_actAll ops start
  dsimp only
  generalize ((∅ : Memory α).actAll start ops).1 = past at hheld hliving ⊢
  generalize ((∅ : Memory α).actAll start ops).2.1 = m at hdistinct hheld hliving ⊢
  generalize ((∅ : Memory α).actAll start ops).2.2 = s
  have hlives (key : CacheKey) : m.living? key ≠ none ↔ ∃ l, open? key past = some l := by
    rw [← Option.ne_none_iff_exists', hliving, Ne, Ne, Option.map_eq_none_iff]
  refine ⟨fun _ _ => Life.open?_eq_some_iff, ?_, ?_, ?_, hlives, ?_⟩
  · intro r hfailed
    have hnone : m.held? r.key = none := by
      rw [hheld, Option.bind_eq_none_iff]
      exact fun l hl => Life.findSome?_of_failed (hfailed l hl)
    rw [get_of_not_held hnone]
    exact ⟨rfl, rfl⟩
  · intro r l failed v later hl hanswers hfailed
    have hvalue : l.value? = some v := by
      rw [Life.value?, hanswers, List.findSome?_append, Life.findSome?_of_failed hfailed]
      rfl
    exact get_of_held (by rw [hheld, hl, Option.bind_some, hvalue]) s
  · intro tag key
    rw [living?_invalidate hdistinct, hliving]
    cases open? key past with
    | none => simp
    | some l => by_cases htag : tag ∈ l.tags <;> simp [Option.filter, Life.entry, htag]
  · rw [size_eq_ncard hdistinct]
    exact congrArg Set.ncard (Set.ext hlives)

end Memory

end FlagSheet
