import FlagSheet.SlugMap

namespace FlagSheet.SlugMap

variable {α : Type}

theorem get?_empty (k : String) : (empty : SlugMap α).get? k = none := rfl

theorem mem_iff_lookup {entries : List (String × α)} (h : entries.Pairwise (fun a b => a.1 < b.1))
    {k : String} {v : α} : (k, v) ∈ entries ↔ entries.lookup k = some v := by
  induction entries with
  | nil => simp
  | cons e rest ih =>
    obtain ⟨k', w⟩ := e
    rw [List.pairwise_cons] at h
    rw [List.mem_cons, List.lookup_cons]
    by_cases hk : k = k'
    · subst hk
      have hrest : (k, v) ∉ rest := fun hmem => String.lt_irrefl k (h.1 (k, v) hmem)
      simp [hrest, eq_comm]
    · have hne : (k == k') = false := beq_eq_false_iff_ne.2 hk
      rw [hne, ← ih h.2]
      simp [hk]

theorem mem_entries_iff {m : SlugMap α} {k : String} {v : α} :
    (k, v) ∈ m.entries ↔ m.get? k = some v := mem_iff_lookup m.sorted

theorem lookup_insertEntry (key k : String) (v : α) (entries : List (String × α)) :
    (insertEntry key v entries).lookup k = if k = key then some v else entries.lookup k := by
  induction entries with
  | nil =>
    by_cases hk : k = key
    · simp [insertEntry, hk]
    · simp [insertEntry, List.lookup_cons, beq_eq_false_iff_ne.2 hk, hk]
  | cons e rest ih =>
    obtain ⟨k', w⟩ := e
    unfold insertEntry
    split
    · by_cases hk : k = key
      · simp [hk]
      · rw [List.lookup_cons, beq_eq_false_iff_ne.2 hk, if_neg hk]
    · split
      · next heq =>
        subst heq
        by_cases hk : k = key
        · simp [hk]
        · simp [List.lookup_cons, beq_eq_false_iff_ne.2 hk, hk]
      · next hne =>
        rw [List.lookup_cons, List.lookup_cons, ih]
        by_cases hk : k = k'
        · subst hk
          simp [Ne.symm hne]
        · simp [beq_eq_false_iff_ne.2 hk]

theorem get?_insert (m : SlugMap α) (key k : String) (v : α) :
    (m.insert key v).get? k = if k = key then some v else m.get? k := lookup_insertEntry key k v m.entries

theorem get?_modify (m : SlugMap α) (key k : String) (f : α → α) :
    (m.modify key f).get? k = if k = key then (m.get? k).map f else m.get? k := by
  unfold get? modify
  dsimp only
  induction m.entries with
  | nil => simp
  | cons e rest ih =>
    obtain ⟨k', w⟩ := e
    rw [List.map_cons, List.lookup_cons, ih, List.lookup_cons]
    by_cases hk : k = k'
    · subst hk
      by_cases hkey : k = key <;> simp [hkey]
    · have hfst : (if k' = key then (k', f w) else (k', w)).1 = k' := by split <;> rfl
      rw [hfst, beq_eq_false_iff_ne.2 hk]

theorem contains_iff {m : SlugMap α} {k : String} : m.contains k = true ↔ k ∈ m.keys := by
  rw [contains, Option.isSome_iff_exists, keys, List.mem_map]
  constructor
  · rintro ⟨v, hv⟩
    exact ⟨(k, v), mem_entries_iff.2 hv, rfl⟩
  · rintro ⟨⟨_, v⟩, hv, rfl⟩
    exact ⟨v, mem_entries_iff.1 hv⟩

theorem eq_of_mem_iff {a b : List (String × α)} (ha : a.Pairwise (fun x y => x.1 < y.1))
    (hb : b.Pairwise (fun x y => x.1 < y.1)) (h : ∀ e, e ∈ a ↔ e ∈ b) : a = b := by
  induction a generalizing b with
  | nil =>
    cases b with
    | nil => rfl
    | cons y ys => exact absurd ((h y).2 List.mem_cons_self) List.not_mem_nil
  | cons x xs ih =>
    cases b with
    | nil => exact absurd ((h x).1 List.mem_cons_self) List.not_mem_nil
    | cons y ys =>
      rw [List.pairwise_cons] at ha hb
      have hxy : x = y := by
        rcases List.mem_cons.1 ((h x).1 List.mem_cons_self) with hx | hx
        · exact hx
        · rcases List.mem_cons.1 ((h y).2 List.mem_cons_self) with hy | hy
          · exact hy.symm
          · exact absurd (String.lt_trans (hb.1 x hx) (ha.1 y hy)) (String.lt_irrefl _)
      subst hxy
      refine congrArg (x :: ·) (ih ha.2 hb.2 fun e => ⟨fun he => ?_, fun he => ?_⟩)
      · rcases List.mem_cons.1 ((h e).1 (List.mem_cons_of_mem _ he)) with rfl | he'
        · exact absurd (ha.1 _ he) (String.lt_irrefl _)
        · exact he'
      · rcases List.mem_cons.1 ((h e).2 (List.mem_cons_of_mem _ he)) with rfl | he'
        · exact absurd (hb.1 _ he) (String.lt_irrefl _)
        · exact he'

theorem eq_of_entries {m n : SlugMap α} (h : m.entries = n.entries) : m = n := by
  cases m
  cases n
  cases h
  rfl

theorem ext_get? {m n : SlugMap α} (h : ∀ k, m.get? k = n.get? k) : m = n :=
  eq_of_entries <| eq_of_mem_iff m.sorted n.sorted fun ⟨k, v⟩ => by
    rw [mem_entries_iff, mem_entries_iff, h]

end FlagSheet.SlugMap
