import FlagSheet.Cache.Round

namespace FlagSheet

/-- A memory, or nothing at all, where every call loads for itself. -/
inductive Cache (α : Type) where
  | off
  | memory (m : Memory α)
deriving DecidableEq, Repr

namespace Cache

variable {σ ε α : Type}

def size : Cache α → Nat
  | off => 0
  | memory m => m.size

def get (c : Cache α) (r : Request σ ε α) (s : σ) : Except ε α × Cache α × σ :=
  match c with
  | off =>
    let (answer, s) := r.load s
    (answer, off, s)
  | memory m =>
    let (answer, m, s) := m.get r s
    (answer, memory m, s)

def loadAll : List (Request σ ε α) → σ → List (Except ε α) × σ
  | [], s => ([], s)
  | r :: rs, s =>
    let (answer, s) := r.load s
    let (answers, s) := loadAll rs s
    (answer :: answers, s)

def getAll (c : Cache α) (rs : List (Request σ ε α)) (s : σ) : List (Except ε α) × Cache α × σ :=
  match c with
  | off =>
    let (answers, s) := loadAll rs s
    (answers, off, s)
  | memory m =>
    let (answers, m, s) := m.getAll rs s
    (answers, memory m, s)

def invalidate : Cache α → String → Cache α
  | off, _ => off
  | memory m, tag => memory (m.invalidate tag)

end Cache

end FlagSheet
