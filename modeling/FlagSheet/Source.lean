import FlagSheet.Document

namespace FlagSheet

structure Location where
  owner : String
  repository : String
  issue : UInt64
deriving DecidableEq, Repr

def Location.describe (l : Location) : String :=
  l.owner ++ "/" ++ l.repository ++ "#" ++ toString l.issue.toNat

structure SourceFault where
  message : String
  /-- It may clear up on its own. -/
  transient : Bool
deriving DecidableEq, Repr

inductive LoadError where
  | source (fault : SourceFault)
  /-- The issue has no body, or a blank one. -/
  | noDocument
deriving DecidableEq, Repr

namespace LoadError

def message : LoadError → String
  | source fault => "document source failed: " ++ fault.message
  | noDocument => "document body not found"

def retryable : LoadError → Bool
  | source fault => fault.transient
  | noDocument => false

end LoadError

structure Source where
  documents : List (Location × String)
  failures : List SourceFault
  fetched : List Location

namespace Source

def empty : Source := ⟨[], [], []⟩

def body? (s : Source) (l : Location) : Option String := s.documents.lookup l

def remove (s : Source) (l : Location) : Source :=
  { s with documents := s.documents.filter (·.1 ≠ l) }

def set (s : Source) (l : Location) (body : String) : Source :=
  { s with documents := (l, body) :: (s.remove l).documents }

def failNext (s : Source) (count : Nat) (fault : SourceFault) : Source :=
  { s with failures := s.failures ++ List.replicate count fault }

/-- Fetches the body at a location. A failure that is due comes in its place. -/
def fetch (s : Source) (l : Location) : Except SourceFault (Option String) × Source :=
  match s.failures with
  | fault :: failures => (.error fault, { s with failures, fetched := s.fetched ++ [l] })
  | [] => (.ok (s.body? l), { s with fetched := s.fetched ++ [l] })

theorem body?_remove (s : Source) (l k : Location) :
    (s.remove l).body? k = if k = l then none else s.body? k := by
  unfold body? remove
  dsimp only
  induction s.documents with
  | nil => simp
  | cons d ds ih =>
    obtain ⟨d, body⟩ := d
    by_cases hd : d = l
    · subst hd
      rw [List.filter_cons_of_neg (by simp), ih, List.lookup_cons]
      by_cases hk : k = d
      · simp [hk]
      · rw [if_neg hk, if_neg hk, beq_eq_false_iff_ne.2 hk]
    · rw [List.filter_cons_of_pos (by simpa using hd), List.lookup_cons, List.lookup_cons, ih]
      by_cases hk : k = d
      · subst hk
        simp [hd]
      · rw [beq_eq_false_iff_ne.2 hk]

theorem body?_set (s : Source) (l k : Location) (body : String) :
    (s.set l body).body? k = if k = l then some body else s.body? k := by
  have h := body?_remove s l k
  unfold body? at h
  unfold body? set
  rw [List.lookup_cons]
  by_cases hk : k = l
  · simp [hk]
  · rw [beq_eq_false_iff_ne.2 hk, if_neg hk]
    rw [if_neg hk] at h
    exact h

end Source

def FeatureSet.ofFetched [Markdown] : Except SourceFault (Option String) → Except LoadError FeatureSet
  | .error fault => .error (.source fault)
  | .ok body =>
    match ofDocument? body with
    | some features => .ok features
    | none => .error .noDocument

def Source.load [Markdown] (l : Location) (s : Source) : Except LoadError FeatureSet × Source :=
  let (fetched, s) := s.fetch l
  (FeatureSet.ofFetched fetched, s)

end FlagSheet
