import FlagSheet.Cache

namespace FlagSheet

theorem find?_modify_findIdx {α : Type} (p : α → Bool) (f : α → α) (hf : ∀ e, p (f e) = p e) (xs : List α)
    (place : Nat) (hplace : xs.findIdx? p = some place) :
    (xs.modify place f).find? p = (xs.find? p).map f := by
  induction xs generalizing place with
  | nil => simp at hplace
  | cons x xs ih =>
      rw [List.findIdx?_cons] at hplace
      by_cases hx : p x = true
      · rw [if_pos hx] at hplace
        cases hplace
        simp [hf, hx]
      · rw [if_neg hx] at hplace
        obtain ⟨i, hi, rfl⟩ := Option.map_eq_some_iff.1 hplace
        simp [hx, ih i hi]

theorem find?_modify_of_not {α : Type} (p : α → Bool) (f : α → α) (xs : List α) (place : Nat)
    (h : ∀ e, xs[place]? = some e → p e = false ∧ p (f e) = false) :
    (xs.modify place f).find? p = xs.find? p := by
  induction xs generalizing place with
  | nil => simp
  | cons x xs ih =>
      cases place with
      | zero =>
          obtain ⟨hx, hfx⟩ := h x rfl
          simp [hx, hfx]
      | succ place => simp only [List.modify_succ_cons, List.find?_cons, ih place (by simpa using h)]

theorem find?_and_of_pairwise {α : Type} (p q : α → Bool) (xs : List α)
    (h : xs.Pairwise fun a b => p a = true → p b = false) :
    (xs.find? fun e => p e && q e) = (xs.find? p).filter q := by
  induction xs with
  | nil => rfl
  | cons x xs ih =>
      rw [List.pairwise_cons] at h
      cases hp : p x with
      | false => simpa [List.find?_cons, hp] using ih h.2
      | true =>
          have hrest : (xs.find? fun e => p e && q e) = none := by
            rw [List.find?_eq_none]
            intro y hy
            simp [h.1 y hy hp]
          cases hq : q x <;> simp only [List.find?_cons, hp, hq, Bool.and_self, Bool.and_false, hrest] <;>
            simp [Option.filter, hq]

namespace Memory

variable {σ ε α : Type}

/-- A memory as a table from keys to living entries. Nothing behind this module depends on the places of
entries. -/
def living? (m : Memory α) (key : CacheKey) : Option (Entry α) :=
  m.entries.find? fun e => e.live && e.key = key

def held? (m : Memory α) (key : CacheKey) : Option α := (m.living? key).bind (·.value)

def Distinct (m : Memory α) : Prop :=
  m.entries.Pairwise fun a b => a.live = true → b.live = true → a.key ≠ b.key

theorem living?_eq_find? (m : Memory α) (key : CacheKey) :
    m.living? key = (m.find? key).bind fun place => m.entries[place]? :=
  List.find?_eq_bind_findIdx?_getElem?

theorem key_of_living? {m : Memory α} {key : CacheKey} {e : Entry α} (h : m.living? key = some e) :
    e ∈ m.entries ∧ e.live = true ∧ e.key = key := by
  have hp := List.find?_some h
  simp only [Bool.and_eq_true, decide_eq_true_eq] at hp
  exact ⟨List.mem_of_find?_eq_some h, hp⟩

theorem find?_eq_none_iff {m : Memory α} {key : CacheKey} : m.find? key = none ↔ m.living? key = none := by
  rw [find?, living?, List.findIdx?_eq_none_iff, List.find?_eq_none]
  simp only [Bool.not_eq_true]

theorem living?_of_find? {m : Memory α} {key : CacheKey} {place : Nat} (h : m.find? key = some place) :
    ∃ e, m.entries[place]? = some e ∧ m.living? key = some e := by
  have he := m.living?_eq_find? key
  rw [h, Option.bind_some] at he
  cases hp : m.entries[place]? with
  | none =>
      rw [hp, ← find?_eq_none_iff, h] at he
      cases he
  | some e => exact ⟨e, rfl, he.trans hp⟩

def opened (m : Memory α) (key : CacheKey) (tags : List String) : Entry α :=
  (m.living? key).getD ⟨key, tags, none, true⟩

theorem find?_enter (m : Memory α) (key : CacheKey) (tags : List String) :
    (m.enter key tags).2.find? key = some (m.enter key tags).1 := by
  unfold enter
  cases h : m.find? key with
  | some place => exact h
  | none =>
      have hn : m.entries.findIdx? (fun e => e.live && e.key = key) = none := h
      simp [find?, List.findIdx?_append, hn]

theorem living?_enter (m : Memory α) (key k : CacheKey) (tags : List String) :
    (m.enter key tags).2.living? k = if k = key then some (m.opened key tags) else m.living? k := by
  unfold enter opened
  cases h : m.find? key with
  | some place =>
      obtain ⟨e, -, he⟩ := living?_of_find? h
      by_cases hk : k = key
      · rw [if_pos hk, hk, he, Option.getD_some]
      · rw [if_neg hk]
  | none =>
      have hn := find?_eq_none_iff.1 h
      by_cases hk : k = key
      · subst hk
        rw [if_pos rfl, hn, Option.getD_none]
        unfold living? at hn ⊢
        simp [List.find?_append, hn]
      · rw [if_neg hk]
        unfold living?
        simp [List.find?_append, Ne.symm hk]

theorem value?_enter (m : Memory α) (key : CacheKey) (tags : List String) :
    (m.enter key tags).2.value? (m.enter key tags).1 = m.held? key := by
  obtain ⟨e, hplace, he⟩ := living?_of_find? (m.find?_enter key tags)
  rw [living?_enter, if_pos rfl] at he
  rw [value?, hplace, Option.bind_some, held?, ← Option.some.inj he, opened]
  cases m.living? key <;> rfl

theorem Distinct.enter {m : Memory α} (h : m.Distinct) (key : CacheKey) (tags : List String) :
    (m.enter key tags).2.Distinct := by
  unfold Memory.enter
  cases hf : m.find? key with
  | some place => exact h
  | none =>
      refine List.pairwise_append.2 ⟨h, List.pairwise_singleton _ _, ?_⟩
      rintro a ha b hb halive -
      rw [List.mem_singleton.1 hb]
      intro hkey
      have hn := List.find?_eq_none.1 (find?_eq_none_iff.1 hf) a ha
      simp [halive, hkey] at hn

theorem living?_publish {m : Memory α} {key : CacheKey} {place : Nat} (hplace : m.find? key = some place) (v : α)
    (k : CacheKey) :
    (m.publish place v).living? k =
      if k = key then (m.living? k).map (fun e => { e with value := some v }) else m.living? k := by
  obtain ⟨e, he, hentry⟩ := living?_of_find? hplace
  by_cases hk : k = key
  · subst hk
    rw [if_pos rfl]
    exact find?_modify_findIdx _ (fun e => { e with value := some v }) (fun _ => rfl) _ _ hplace
  · rw [if_neg hk]
    apply find?_modify_of_not
    intro e' he'
    obtain rfl : e = e' := Option.some.inj (he.symm.trans he')
    simp [(key_of_living? hentry).2.2, Ne.symm hk]

theorem Distinct.publish {m : Memory α} (h : m.Distinct) (place : Nat) (v : α) : (m.publish place v).Distinct := by
  unfold Distinct Memory.publish at *
  rw [List.pairwise_iff_getElem] at *
  intro i j hi hj hij
  rw [List.length_modify] at hi hj
  have hpair := h i j hi hj hij
  rw [List.getElem_modify, List.getElem_modify]
  split <;> split <;> exact hpair

theorem Distinct.invalidate {m : Memory α} (h : m.Distinct) (tag : String) : (m.invalidate tag).Distinct := by
  refine List.pairwise_map.2 (h.imp ?_)
  intro a b hab
  split <;> split <;> simp_all

theorem living?_invalidate {m : Memory α} (h : m.Distinct) (tag : String) (key : CacheKey) :
    (m.invalidate tag).living? key = (m.living? key).filter fun e => tag ∉ e.tags := by
  have hsingle : m.entries.Pairwise fun a b =>
      (a.live && decide (a.key = key)) = true → (b.live && decide (b.key = key)) = false := by
    refine h.imp ?_
    intro a b hab ha
    simp only [Bool.and_eq_true, decide_eq_true_eq] at ha
    have hb := hab ha.1
    rw [ha.2] at hb
    simpa using fun hlive hkey => hb hlive hkey.symm
  have htest : ((fun e : Entry α => e.live && decide (e.key = key)) ∘
      fun e => if tag ∈ e.tags then { e with live := false } else e) =
      fun e => (e.live && decide (e.key = key)) && decide (tag ∉ e.tags) := by
    funext e
    by_cases htag : tag ∈ e.tags <;> simp [htag]
  unfold living? invalidate
  rw [List.find?_map, htest, find?_and_of_pairwise _ _ _ hsingle]
  cases hf : m.entries.find? fun e => e.live && decide (e.key = key) with
  | none => rfl
  | some e => by_cases htag : tag ∈ e.tags <;> simp [Option.filter, htag]

theorem get_of_held {m : Memory α} {r : Request σ ε α} {v : α} (h : m.held? r.key = some v) (s : σ) :
    m.get r s = (.ok v, m, s) := by
  have hv := m.value?_enter r.key r.tags
  have hm : (m.enter r.key r.tags).2 = m := by
    obtain ⟨e, he, -⟩ := Option.bind_eq_some_iff.1 h
    unfold enter
    cases hf : m.find? r.key with
    | some place => rfl
    | none => rw [find?_eq_none_iff.1 hf] at he; cases he
  rw [h, hm] at hv
  unfold get
  simp only [hm, hv]

theorem get_of_not_held {m : Memory α} {r : Request σ ε α} (h : m.held? r.key = none) (s : σ) :
    m.get r s =
      ((r.load s).1, (m.enter r.key r.tags).2.settle (m.enter r.key r.tags).1 (r.load s).1, (r.load s).2) := by
  have hv := m.value?_enter r.key r.tags
  rw [h] at hv
  unfold get
  simp only [hv]

theorem Distinct.get {m : Memory α} (h : m.Distinct) (r : Request σ ε α) (s : σ) : (m.get r s).2.1.Distinct := by
  cases hv : m.held? r.key with
  | some v => rw [get_of_held hv]; exact h
  | none =>
      rw [get_of_not_held hv]
      dsimp only
      cases (r.load s).1 with
      | ok v => exact (h.enter _ _).publish _ _
      | error e => exact h.enter _ _

theorem living?_get (m : Memory α) (r : Request σ ε α) (s : σ) (key : CacheKey) :
    (m.get r s).2.1.living? key =
      if key = r.key then some { m.opened r.key r.tags with value := (m.get r s).1.toOption } else m.living? key := by
  cases hv : m.held? r.key with
  | some v =>
      rw [get_of_held hv]
      by_cases hk : key = r.key
      · subst hk
        obtain ⟨e, he, hev⟩ := Option.bind_eq_some_iff.1 hv
        rw [if_pos rfl, opened, he, Option.getD_some]
        simp [Except.toOption, ← hev]
      · rw [if_neg hk]
  | none =>
      rw [get_of_not_held hv]
      dsimp only
      have hopen : (m.opened r.key r.tags).value = none := by
        unfold opened held? at *
        cases he : m.living? r.key with
        | none => rfl
        | some e => rw [he] at hv; exact hv
      cases (r.load s).1 with
      | ok v =>
          rw [settle, living?_publish (m.find?_enter r.key r.tags), living?_enter]
          by_cases hk : key = r.key
          · rw [if_pos hk, if_pos hk, if_pos hk]
            rfl
          · rw [if_neg hk, if_neg hk, if_neg hk]
      | error e =>
          rw [settle, living?_enter]
          by_cases hk : key = r.key
          · rw [if_pos hk, if_pos hk]
            simp [Except.toOption, ← hopen]
          · rw [if_neg hk, if_neg hk]

theorem held?_get (m : Memory α) (r : Request σ ε α) (s : σ) (key : CacheKey) :
    (m.get r s).2.1.held? key = if key = r.key then (m.get r s).1.toOption else m.held? key := by
  rw [held?, living?_get]
  by_cases hk : key = r.key
  · rw [if_pos hk, if_pos hk]
    rfl
  · rw [if_neg hk, if_neg hk]
    rfl

def Tagged (m : Memory α) : Prop := ∀ key e, m.living? key = some e → e.tags = [key.project]

theorem Tagged.get {m : Memory α} (h : m.Tagged) {r : Request σ ε α} (hr : r.tags = [r.key.project]) (s : σ) :
    (m.get r s).2.1.Tagged := by
  intro key e he
  rw [living?_get] at he
  by_cases hk : key = r.key
  · subst hk
    rw [if_pos rfl] at he
    cases he
    unfold opened
    cases hm : m.living? r.key with
    | none => exact hr
    | some e => exact h _ e hm
  · rw [if_neg hk] at he
    exact h key e he

theorem Tagged.invalidate {m : Memory α} (h : m.Tagged) (hd : m.Distinct) (tag : String) :
    (m.invalidate tag).Tagged := by
  intro key e he
  rw [living?_invalidate hd] at he
  exact h key e (Option.eq_some_of_filter_eq_some he)

theorem Tagged.living?_invalidate {m : Memory α} (h : m.Tagged) (hd : m.Distinct) (tag : String) (key : CacheKey) :
    (m.invalidate tag).living? key = if key.project = tag then none else m.living? key := by
  rw [Memory.living?_invalidate hd]
  cases he : m.living? key with
  | none => simp
  | some e =>
      rw [Option.filter, h key e he]
      by_cases hk : key.project = tag
      · simp [hk]
      · simp [hk, Ne.symm hk]

end Memory

namespace Cache

variable {σ ε α : Type}

def living? : Cache α → CacheKey → Option (Entry α)
  | off, _ => none
  | memory m, key => m.living? key

def held? : Cache α → CacheKey → Option α
  | off, _ => none
  | memory m, key => m.held? key

theorem held?_eq_living? (c : Cache α) (key : CacheKey) : c.held? key = (c.living? key).bind (·.value) := by
  cases c <;> rfl

inductive ByProject : Cache α → Prop
  | off : ByProject .off
  | memory {m : Memory α} (distinct : m.Distinct) (tagged : m.Tagged) : ByProject (.memory m)

theorem ByProject.empty : ByProject (.memory (∅ : Memory α)) := by
  refine .memory .nil ?_
  intro key e he
  cases he

theorem ByProject.get {c : Cache α} (h : c.ByProject) {r : Request σ ε α} (hr : r.tags = [r.key.project]) (s : σ) :
    (c.get r s).2.1.ByProject := by
  cases h with
  | off => exact .off
  | memory distinct tagged => exact .memory (distinct.get r s) (tagged.get hr s)

theorem ByProject.invalidate {c : Cache α} (h : c.ByProject) (tag : String) : (c.invalidate tag).ByProject := by
  cases h with
  | off => exact .off
  | memory distinct tagged => exact .memory (distinct.invalidate tag) (tagged.invalidate distinct tag)

theorem get_of_held {c : Cache α} {r : Request σ ε α} {v : α} (h : c.held? r.key = some v) (s : σ) :
    c.get r s = (.ok v, c, s) := by
  cases c with
  | off => cases h
  | memory m =>
      unfold get
      simp only [Memory.get_of_held h]

theorem get_of_not_held {c : Cache α} {r : Request σ ε α} (h : c.held? r.key = none) (s : σ) :
    (c.get r s).1 = (r.load s).1 ∧ (c.get r s).2.2 = (r.load s).2 := by
  cases c with
  | off => exact ⟨rfl, rfl⟩
  | memory m =>
      unfold get
      simp only [Memory.get_of_not_held h, and_self]

theorem held?_get_of_ne (c : Cache α) (r : Request σ ε α) (s : σ) {key : CacheKey} (hk : key ≠ r.key) :
    (c.get r s).2.1.held? key = c.held? key := by
  cases c with
  | off => rfl
  | memory m => exact (m.held?_get r s key).trans (if_neg hk)

theorem answer_of_held?_get {c : Cache α} {r : Request σ ε α} {s : σ} {v : α}
    (h : (c.get r s).2.1.held? r.key = some v) : (c.get r s).1 = .ok v := by
  cases c with
  | off => cases h
  | memory m =>
      have hv := (m.held?_get r s r.key).symm.trans h
      rw [if_pos rfl] at hv
      change (m.get r s).1 = .ok v
      cases ha : (m.get r s).1 with
      | ok w => rw [ha] at hv; exact congrArg _ (Option.some.inj hv)
      | error e => rw [ha] at hv; cases hv

theorem living?_invalidate {c : Cache α} (h : c.ByProject) (tag : String) (key : CacheKey) :
    (c.invalidate tag).living? key = if key.project = tag then none else c.living? key := by
  cases h with
  | off => exact (ite_self _).symm
  | memory distinct tagged => exact tagged.living?_invalidate distinct tag key

theorem held?_invalidate {c : Cache α} (h : c.ByProject) (tag : String) (key : CacheKey) :
    (c.invalidate tag).held? key = if key.project = tag then none else c.held? key := by
  rw [held?_eq_living?, living?_invalidate h, held?_eq_living?]
  split <;> rfl

end Cache

end FlagSheet
