namespace FlagSheet.Text

/-- Membership in a union of half-open ranges, whose bounds are listed in increasing order: the start
of the first range, its end, the start of the second one and so on. -/
def within : List Nat → Nat → Bool
  | lo :: hi :: rest, n => lo ≤ n && (n < hi || within rest n)
  | _, _ => false

end FlagSheet.Text
