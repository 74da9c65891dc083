import FlagSheet.Markup.Cursor

namespace FlagSheet.Markup

def runLength (c : Char) (cs : List Char) : Nat := (cs.takeWhile (· = c)).length

def isThematicBreak : List Char → Bool
  | [] => false
  | c :: cs =>
    (c = '*' || c = '-' || c = '_') &&
      (c :: cs).all (fun x => x = c || x = ' ' || x = '\t') && 3 ≤ (c :: cs).count c

def headingDepth? (cs : List Char) : Option Nat :=
  let depth := runLength '#' cs
  if 1 ≤ depth && depth ≤ 6 && (cs.drop depth).head?.all isInlineSpace then some depth else none

def underlineDepth? (cs : List Char) : Option Nat :=
  match cs with
  | '=' :: _ => if blankRest (cs.dropWhile (· = '=')) then some 1 else none
  | '-' :: _ => if blankRest (cs.dropWhile (· = '-')) then some 2 else none
  | _ => none

def fence? (cs : List Char) : Option (Char × Nat) :=
  match cs with
  | [] => none
  | c :: _ =>
    let length := runLength c cs
    if (c = '\x60' || c = '~') && 3 ≤ length && !(c = '\x60' && (cs.drop length).contains c) then
      some (c, length)
    else none

def closesFence (c : Char) (length : Nat) (cs : List Char) : Bool :=
  length ≤ runLength c cs && (cs.drop (runLength c cs)).all (· = ' ')

def isBulletMark (c : Char) : Bool := c = '-' || c = '+' || c = '*'

def ordinal? (cs : List Char) : Option (List Char × Char) :=
  let digits := cs.takeWhile Char.isDigit
  match cs.drop digits.length with
  | c :: _ =>
    if 1 ≤ digits.length && digits.length ≤ 9 && (c = '.' || c = ')') then some (digits, c) else none
  | [] => none

def itemMark? (cs : List Char) : Option (Char × Nat) :=
  match cs with
  | [] => none
  | c :: _ =>
    if isBulletMark c then if isThematicBreak cs then none else some (c, 1)
    else (ordinal? cs).map fun (digits, delimiter) => (delimiter, digits.length + 1)

/-- Where the content of an item begins, when one column of space has been passed behind the mark: up to
three more columns belong to the indent, four make the content a code block. -/
def itemContent (indent : Nat) (c : Cursor) : Nat × Cursor :=
  if blankRest c.rest then (indent, c)
  else
    let deeper := c.pass 4
    if deeper.1 < 4 then (indent + deeper.1, deeper.2) else (indent, c)

/-- A list item at the front of a line: the kind of its list, the column where its content begins when
the mark stands at column `indent`, and the place of the content. -/
def item? (indent : Nat) (c : Cursor) : Option (Char × Nat × Cursor) :=
  match itemMark? c.rest with
  | none => none
  | some (kind, width) =>
    let gap := (c.drop width).pass 1
    if gap.1 = 1 ∨ gap.2.atEnd then some (kind, itemContent (indent + width + 1) gap.2) else none

def task? (c : Cursor) : Option Cursor :=
  let inner := (c.pass 3).2
  match inner.rest with
  | '[' :: x :: ']' :: after :: _ =>
    if (isInlineSpace x || x = 'x' || x = 'X') && isInlineSpace after then some (inner.drop 3)
    else none
  | _ => none

/-- The line has the mark of a list item. Such an item may interrupt a paragraph when it has a bullet
or the number one, and is not empty. -/
structure ItemAhead where
  interrupts : Bool

def itemAhead? (cs : List Char) : Option ItemAhead :=
  match cs with
  | [] => none
  | c :: rest =>
    if isBulletMark c then ahead true rest
    else
      match ordinal? cs with
      | some (digits, _) =>
        ahead (digits.dropWhile (· = '0') = ['1']) (cs.drop (digits.length + 1))
      | none => none
where
  ahead (first : Bool) (rest : List Char) : Option ItemAhead :=
    if rest.head?.all (fun x => x = ' ' || x = '\t') then some ⟨first && !blankRest rest⟩ else none

theorem one_le_of_itemMark {cs : List Char} {kind : Char} {width : Nat}
    (h : itemMark? cs = some (kind, width)) : 1 ≤ width ∧ 1 ≤ cs.length := by
  unfold itemMark? at h
  split at h
  · cases h
  · split at h
    · split at h
      · cases h
      · cases h
        exact ⟨Nat.le_refl _, Nat.le_add_left _ _⟩
    · obtain ⟨⟨digits, delimiter⟩, _, h⟩ := Option.map_eq_some_iff.1 h
      cases h
      exact ⟨Nat.le_add_left _ _, Nat.le_add_left _ _⟩

theorem length_itemContent (indent : Nat) (c : Cursor) :
    (itemContent indent c).2.rest.length ≤ c.rest.length := by
  have := Cursor.length_pass 4 c
  unfold itemContent
  split
  · exact Nat.le_refl _
  · dsimp only
    split
    · exact this
    · exact Nat.le_refl _

theorem length_item {indent content : Nat} {c c' : Cursor} {kind : Char}
    (h : item? indent c = some (kind, content, c')) : c'.rest.length < c.rest.length := by
  unfold item? at h
  split at h
  · cases h
  · next k width hmark =>
    have hw := one_le_of_itemMark hmark
    have hgap := Cursor.length_pass 1 (c.drop width)
    have hcontent := length_itemContent (indent + width + 1) ((c.drop width).pass 1).2
    simp only at h
    split at h
    · simp only [Option.some.injEq, Prod.mk.injEq] at h
      rw [h.2] at hcontent
      simp only [Cursor.drop, List.length_drop] at hgap hcontent
      omega
    · cases h

theorem length_task {c c' : Cursor} (h : task? c = some c') : c'.rest.length < c.rest.length := by
  have := Cursor.length_pass 3 c
  simp only [task?] at h
  split at h
  · next after _ hrest =>
    split at h
    · cases h
      have : ((c.pass 3).2.drop 3).rest.length + 3 = (c.pass 3).2.rest.length := by
        simp [Cursor.drop, hrest]
      omega
    · cases h
  · cases h

end FlagSheet.Markup
