import FlagSheet.Proofs.Cache.Table

namespace FlagSheet.Memory

variable {ε α : Type} {m : Memory α} {key k : CacheKey} {tags : List String} {place p : Nat}

theorem lt_of_find? (h : m.find? key = some place) : place < m.entries.length := by
  obtain ⟨e, he, -⟩ := living?_of_find? h
  exact (List.getElem?_eq_some_iff.1 he).1

theorem value?_of_held? {v : α} (h : m.held? key = some v) : ∃ p, m.find? key = some p ∧ m.value? p = some v := by
  rw [held?, living?_eq_find?, Option.bind_assoc] at h
  exact Option.bind_eq_some_iff.1 h

theorem entries_enter (m : Memory α) (key : CacheKey) (tags : List String) :
    ∃ opened, (m.enter key tags).2.entries = m.entries ++ opened ∧ ∀ e ∈ opened, e = ⟨key, tags, none, true⟩ := by
  cases h : m.find? key with
  | some place => exact ⟨[], by simp [enter, h], by simp⟩
  | none => exact ⟨[⟨key, tags, none, true⟩], by simp [enter, h], by simp⟩

theorem value?_enter_of_lt (hp : p < m.entries.length) : (m.enter key tags).2.value? p = m.value? p := by
  obtain ⟨opened, hentries, -⟩ := entries_enter m key tags
  rw [value?, value?, hentries, List.getElem?_append_left hp]

theorem length_le_enter : m.entries.length ≤ (m.enter key tags).2.entries.length := by
  obtain ⟨opened, hentries, -⟩ := entries_enter m key tags
  simp [hentries]

theorem find?_enter_of_find? (h : m.find? k = some p) : (m.enter key tags).2.find? k = some p := by
  obtain ⟨opened, hentries, -⟩ := entries_enter m key tags
  rw [find?] at h
  rw [find?, hentries, List.findIdx?_append, h, Option.some_or]

theorem findIdx?_modify {β : Type} (q : β → Bool) (f : β → β) (hf : ∀ b, q (f b) = q b) (xs : List β) (place : Nat) :
    (xs.modify place f).findIdx? q = xs.findIdx? q := by
  induction xs generalizing place with
  | nil => simp
  | cons x xs ih => cases place <;> simp [List.findIdx?_cons, hf, ih]

theorem modify_append {β : Type} (f : β → β) {xs : List β} (ys : List β) {place : Nat} (h : place < xs.length) :
    (xs ++ ys).modify place f = xs.modify place f ++ ys := by
  induction xs generalizing place with
  | nil => simp at h
  | cons x xs ih =>
      cases place with
      | zero => simp
      | succ place => simpa using ih (by simpa using h)

theorem find?_publish (m : Memory α) (place : Nat) (v : α) (key : CacheKey) :
    (m.publish place v).find? key = m.find? key :=
  findIdx?_modify _ (fun e : Entry α => { e with value := some v }) (fun _ => rfl) _ _

theorem enter_settle (answer : Except ε α) (hp : p < m.entries.length) :
    (m.settle p answer).enter key tags = ((m.enter key tags).1, (m.enter key tags).2.settle p answer) := by
  cases answer with
  | error e => rfl
  | ok v =>
      have hfind := m.find?_publish p v key
      cases h : m.find? key with
      | some place =>
          rw [h] at hfind
          simp [enter, settle, h, hfind]
      | none =>
          rw [h] at hfind
          simp only [enter, settle, h, hfind]
          simp [publish, modify_append _ _ hp]

theorem value?_settle_of_ne (answer : Except ε α) (hp : p ≠ place) :
    (m.settle place answer).value? p = m.value? p := by
  cases answer with
  | error e => rfl
  | ok v => rw [settle, value?_publish, if_neg hp]

theorem settle_comm (answer answer' : Except ε α) (hp : place ≠ p) :
    (m.settle place answer).settle p answer' = (m.settle p answer').settle place answer := by
  cases answer <;> cases answer' <;> simp [settle, publish, List.modify_modify_ne _ _ _ hp]

end FlagSheet.Memory
