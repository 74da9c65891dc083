import FlagSheet.Markup.Line

namespace FlagSheet.Markup

/-- A place in a line that is counted in columns. A tab reaches to the next multiple of four columns and can
be passed in part; the columns of it that are left over are owed. -/
structure Cursor where
  /-- Columns passed, up to a multiple of four. -/
  column : Nat
  owed : Nat
  rest : List Char
deriving DecidableEq, Repr

namespace Cursor

def start (cs : List Char) : Cursor := ⟨0, 0, cs⟩

def atEnd (c : Cursor) : Bool := c.rest.isEmpty

/-- Passes up to `n` columns of spaces and tabs in `cs`, which begins at `column`; the number of columns
passed and the place behind them. -/
def passSpaces (column n : Nat) : List Char → Nat × Cursor
  | ' ' :: rest =>
    if n = 0 then (0, ⟨column, 0, ' ' :: rest⟩)
    else
      let (k, c) := passSpaces (column + 1) (n - 1) rest
      (k + 1, c)
  | '\t' :: rest =>
    if n = 0 then (0, ⟨column, 0, '\t' :: rest⟩)
    else
      let width := 4 - column % 4
      if n < width then (n, ⟨0, width - n, rest⟩)
      else
        let (k, c) := passSpaces 0 (n - width) rest
        (k + width, c)
  | rest => (0, ⟨column, 0, rest⟩)

def pass (n : Nat) (c : Cursor) : Nat × Cursor :=
  if n ≤ c.owed then (n, { c with owed := c.owed - n })
  else
    let (k, c') := passSpaces c.column (n - c.owed) c.rest
    (c.owed + k, c')

def passAll (c : Cursor) : Cursor :=
  { c with owed := 0, rest := c.rest.dropWhile (fun x => x = ' ' || x = '\t') }

def drop (n : Nat) (c : Cursor) : Cursor := { c with column := c.column + n, rest := c.rest.drop n }

def quoteMark? (c : Cursor) : Option Cursor :=
  match c.rest with
  | '>' :: _ => some ((c.drop 1).pass 1).2
  | _ => none

theorem length_passSpaces (column n : Nat) (cs : List Char) :
    (passSpaces column n cs).2.rest.length ≤ cs.length := by
  fun_induction passSpaces column n cs <;> simp_all <;> omega

theorem length_pass (n : Nat) (c : Cursor) : (c.pass n).2.rest.length ≤ c.rest.length := by
  unfold pass
  split
  · simp
  · exact length_passSpaces _ _ _

theorem length_quoteMark {c c' : Cursor} (h : c.quoteMark? = some c') :
    c'.rest.length < c.rest.length := by
  unfold quoteMark? at h
  split at h
  · next rest hr =>
    cases h
    have := length_pass 1 (c.drop 1)
    have : (c.drop 1).rest.length + 1 = c.rest.length := by simp [drop, hr]
    omega
  · cases h

end Cursor

end FlagSheet.Markup
