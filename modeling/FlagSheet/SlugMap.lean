namespace FlagSheet

/-- Maps with text keys, in increasing order of the keys. Since code points are in the same order as their
UTF-8 bytes, this is also the order of the bytes. -/
structure SlugMap (α : Type) where
  entries : List (String × α)
  sorted : entries.Pairwise (fun a b => a.1 < b.1)
deriving DecidableEq

namespace SlugMap

variable {α β : Type}

def empty : SlugMap α := ⟨[], .nil⟩

instance : EmptyCollection (SlugMap α) := ⟨empty⟩

instance : Inhabited (SlugMap α) := ⟨empty⟩

def get? (m : SlugMap α) (key : String) : Option α := m.entries.lookup key

def contains (m : SlugMap α) (key : String) : Bool := (m.get? key).isSome

def keys (m : SlugMap α) : List String := m.entries.map (·.1)

def values (m : SlugMap α) : List α := m.entries.map (·.2)

def size (m : SlugMap α) : Nat := m.entries.length

def isEmpty (m : SlugMap α) : Bool := m.entries.isEmpty

def insertEntry (key : String) (v : α) : List (String × α) → List (String × α)
  | [] => [(key, v)]
  | (k, w) :: rest =>
    if key < k then (key, v) :: (k, w) :: rest
    else if key = k then (key, v) :: rest
    else (k, w) :: insertEntry key v rest

theorem mem_keys_insertEntry {key k : String} {v : α} {entries : List (String × α)} {w : α}
    (h : (k, w) ∈ insertEntry key v entries) : k = key ∨ ∃ w', (k, w') ∈ entries := by
  induction entries with
  | nil => simp_all [insertEntry]
  | cons e rest ih => grind [insertEntry]

theorem insertEntry_sorted {key : String} {v : α} {entries : List (String × α)}
    (h : entries.Pairwise (fun a b => a.1 < b.1)) :
    (insertEntry key v entries).Pairwise (fun a b => a.1 < b.1) := by
  induction entries with
  | nil => simp [insertEntry]
  | cons e rest ih =>
    obtain ⟨k, w⟩ := e
    rw [List.pairwise_cons] at h
    unfold insertEntry
    split
    · next hlt =>
      refine .cons ?_ (.cons h.1 h.2)
      intro e he
      rcases List.mem_cons.1 he with rfl | he
      · exact hlt
      · exact String.lt_trans hlt (h.1 e he)
    · split
      · next heq =>
        subst heq
        exact .cons h.1 h.2
      · next hnlt hne =>
        refine .cons ?_ (ih h.2)
        rintro ⟨k', w'⟩ he
        rcases mem_keys_insertEntry he with rfl | ⟨w'', he⟩
        · rcases Std.Trichotomous.rel_or_eq_or_rel_swap (r := fun a b : String => a < b) with
            (hlt : k' < k) | heq | (hlt : k < k')
          · exact absurd hlt hnlt
          · exact absurd heq hne
          · exact hlt
        · exact h.1 (k', w'') he

def insert (m : SlugMap α) (key : String) (v : α) : SlugMap α :=
  ⟨insertEntry key v m.entries, insertEntry_sorted m.sorted⟩

def ofList (entries : List (String × α)) : SlugMap α :=
  entries.foldl (fun m e => m.insert e.1 e.2) empty

def modify (m : SlugMap α) (key : String) (f : α → α) : SlugMap α where
  entries := m.entries.map fun e => if e.1 = key then (e.1, f e.2) else e
  sorted := by
    rw [List.pairwise_map]
    refine m.sorted.imp ?_
    intro a b h
    split <;> split <;> exact h

def filter (m : SlugMap α) (p : String → α → Bool) : SlugMap α where
  entries := m.entries.filter fun e => p e.1 e.2
  sorted := m.sorted.filter _

end SlugMap

abbrev SlugSet := SlugMap Unit

namespace SlugSet

def ofList (slugs : List String) : SlugSet := SlugMap.ofList (slugs.map fun s => (s, ()))

def toList (s : SlugSet) : List String := SlugMap.keys s

end SlugSet

end FlagSheet
