import FlagSheet.SlugMap.Lemmas

namespace FlagSheet

namespace SlugMap

variable {α : Type}

theorem modify_modify (m : SlugMap α) (key : String) (f g : α → α) :
    (m.modify key f).modify key g = m.modify key (g ∘ f) := by
  apply ext_get?
  intro k
  simp only [get?_modify]
  by_cases hk : k = key
  · simp only [if_pos hk, Option.map_map]
  · simp only [if_neg hk]

theorem modify_insert (m : SlugMap α) (key : String) (v : α) (f : α → α) :
    (m.insert key v).modify key f = m.insert key (f v) := by
  apply ext_get?
  intro k
  simp only [get?_modify, get?_insert]
  by_cases hk : k = key
  · simp only [if_pos hk, Option.map_some]
  · simp only [if_neg hk]

theorem modify_id (m : SlugMap α) (key : String) : m.modify key id = m := by
  apply ext_get?
  intro k
  rw [get?_modify, Option.map_id_fun, id, ite_self]

theorem insert_insert (m : SlugMap α) (key : String) (v w : α) : (m.insert key v).insert key w = m.insert key w := by
  apply ext_get?
  intro k
  simp only [get?_insert]
  by_cases hk : k = key
  · simp only [if_pos hk]
  · simp only [if_neg hk]

theorem contains_insert (m : SlugMap α) (key k : String) (v : α) :
    (m.insert key v).contains k = (decide (k = key) || m.contains k) := by
  by_cases hk : k = key <;> simp [contains, get?_insert, hk]

theorem isEmpty_values {m : SlugMap α} : m.values.isEmpty = m.isEmpty := List.isEmpty_map

theorem isEmpty_of_mem {m : SlugMap α} {v : α} (h : v ∈ m.values) : m.isEmpty = false := by
  rw [← isEmpty_values]
  exact List.isEmpty_eq_false_iff.2 (List.ne_nil_of_mem h)

theorem eq_empty_of_isEmpty {m : SlugMap α} (h : m.isEmpty = true) : m = ∅ := eq_of_entries (List.isEmpty_iff.1 h)

theorem insertEntry_of_lt {key : String} {v : α} {entries : List (String × α)} (h : ∀ e ∈ entries, e.1 < key) :
    insertEntry key v entries = entries ++ [(key, v)] := by
  induction entries with
  | nil => rfl
  | cons e entries ih =>
      obtain ⟨k, w⟩ := e
      rw [List.forall_mem_cons] at h
      have hne : key ≠ k := fun heq => String.lt_irrefl k (heq ▸ h.1)
      rw [insertEntry, if_neg (String.lt_asymm h.1), if_neg hne, ih h.2, List.cons_append]

theorem entries_foldl_insert {m : SlugMap α} {entries : List (String × α)}
    (h : (m.entries ++ entries).Pairwise fun a b => a.1 < b.1) :
    (entries.foldl (fun m e => m.insert e.1 e.2) m).entries = m.entries ++ entries := by
  induction entries generalizing m with
  | nil => rw [List.append_nil, List.foldl_nil]
  | cons e entries ih =>
      have hlast : ∀ e' ∈ m.entries, e'.1 < e.1 := fun e' he' =>
        (List.pairwise_append.1 h).2.2 e' he' e List.mem_cons_self
      have hinsert : (m.insert e.1 e.2).entries = m.entries ++ [e] := insertEntry_of_lt hlast
      rw [List.foldl_cons, ih (by rwa [hinsert, List.append_assoc]), hinsert, List.append_assoc, List.singleton_append]

theorem ofList_entries (m : SlugMap α) : ofList m.entries = m := eq_of_entries (entries_foldl_insert m.sorted)

def map {β : Type} (g : α → β) (m : SlugMap α) : SlugMap β where
  entries := m.entries.map fun e => (e.1, g e.2)
  sorted := List.pairwise_map.2 m.sorted

theorem values_map {β : Type} (g : α → β) (m : SlugMap α) : (m.map g).values = m.values.map g := by
  rw [values, values, map, List.map_map, List.map_map]
  rfl

theorem isEmpty_map {β : Type} (g : α → β) (m : SlugMap α) : (m.map g).isEmpty = m.isEmpty := List.isEmpty_map

theorem get?_map {β : Type} (g : α → β) (m : SlugMap α) (k : String) : (m.map g).get? k = (m.get? k).map g := by
  cases hk : m.get? k with
  | some v => exact mem_entries_iff.1 (List.mem_map.2 ⟨(k, v), mem_entries_iff.2 hk, rfl⟩)
  | none =>
      rw [Option.map_none, Option.eq_none_iff_forall_ne_some]
      intro w hw
      obtain ⟨⟨k', v⟩, hmem, heq⟩ := List.mem_map.1 (mem_entries_iff.2 hw)
      obtain ⟨rfl, -⟩ := Prod.mk.inj heq
      rw [mem_entries_iff, hk] at hmem
      cases hmem

end SlugMap

theorem SlugSet.mem_toList_ofList {slugs : List String} {slug : String} :
    slug ∈ (ofList slugs).toList ↔ slug ∈ slugs := by
  have hfold (m : SlugMap Unit) :
      ((slugs.map fun s => (s, ())).foldl (fun m e => m.insert e.1 e.2) m).contains slug =
        (decide (slug ∈ slugs) || m.contains slug) := by
    induction slugs generalizing m with
    | nil => simp
    | cons s slugs ih =>
        rw [List.map_cons, List.foldl_cons, ih, SlugMap.contains_insert]
        by_cases hs : slug = s <;> simp [hs]
  rw [toList, ← SlugMap.contains_iff, ofList, SlugMap.ofList, hfold]
  simp [SlugMap.contains, SlugMap.get?_empty]

end FlagSheet
