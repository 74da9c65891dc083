namespace FlagSheet

structure CacheKey where
  project : String
  /-- The slug of an environment. -/
  environment : String
deriving DecidableEq, Repr

def CacheKey.describe (k : CacheKey) : String := k.project ++ "@" ++ k.environment

abbrev Loader (σ ε α : Type) := σ → Except ε α × σ

structure Request (σ ε α : Type) where
  key : CacheKey
  tags : List String
  load : Loader σ ε α

structure Entry (α : Type) where
  key : CacheKey
  tags : List String
  value : Option α
  live : Bool
deriving DecidableEq, Repr

/-- All entries that have ever been opened, in this order. An entry lives until one of its tags is
invalidated; a load that fails leaves it open, without a value. It is known by its place, so that a load which
began for one that no longer lives ends there and not in a later entry of its key. -/
structure Memory (α : Type) where
  entries : List (Entry α)
deriving DecidableEq, Repr

namespace Memory

variable {σ ε α : Type}

def empty : Memory α := ⟨[]⟩

instance : EmptyCollection (Memory α) := ⟨empty⟩

instance : Inhabited (Memory α) := ⟨empty⟩

def find? (m : Memory α) (key : CacheKey) : Option Nat :=
  m.entries.findIdx? fun e => e.live && e.key = key

def enter (m : Memory α) (key : CacheKey) (tags : List String) : Nat × Memory α :=
  match m.find? key with
  | some place => (place, m)
  | none => (m.entries.length, ⟨m.entries ++ [⟨key, tags, none, true⟩]⟩)

def value? (m : Memory α) (place : Nat) : Option α := m.entries[place]?.bind (·.value)

def publish (m : Memory α) (place : Nat) (v : α) : Memory α :=
  ⟨m.entries.modify place fun e => { e with value := some v }⟩

theorem value?_publish (m : Memory α) (place p : Nat) (v : α) :
    (m.publish place v).value? p =
      if p = place then m.entries[p]?.map (fun _ => v) else m.value? p := by
  unfold value? publish
  rw [List.getElem?_modify]
  by_cases hp : p = place
  · subst hp
    cases m.entries[p]? <;> simp
  · cases m.entries[p]? <;> simp [Ne.symm hp, hp]

def settle (m : Memory α) (place : Nat) : Except ε α → Memory α
  | .ok v => m.publish place v
  | .error _ => m

def invalidate (m : Memory α) (tag : String) : Memory α :=
  ⟨m.entries.map fun e => if tag ∈ e.tags then { e with live := false } else e⟩

def size (m : Memory α) : Nat := m.entries.countP (·.live)

def get (m : Memory α) (r : Request σ ε α) (s : σ) : Except ε α × Memory α × σ :=
  let (place, m) := m.enter r.key r.tags
  match m.value? place with
  | some v => (.ok v, m, s)
  | none =>
    let (answer, s) := r.load s
    (answer, m.settle place answer, s)

end Memory

end FlagSheet
