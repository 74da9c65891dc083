import FlagSheet.Markdown

namespace FlagSheet.Markdown

variable {text : List Char}

/-- What a text has one behind the other, with what is inside of each. -/
inductive Blocks (text : List Char) where
  | none
  | atom (a : Atom) (span : Span text) (rest : Blocks text)
  | block (tag : Tag) (span : Span text) (inside rest : Blocks text)

namespace Blocks

def events : Blocks text → List (Event × Span text)
  | none => []
  | atom a span rest => (.atom a, span) :: rest.events
  | block tag span inside rest => (.start tag, span) :: (inside.events ++ (.stop, span) :: rest.events)

/-- The blocks lie between two places, one behind the other, and what is inside of a block lies in its range. -/
def Within (start stop : Nat) : Blocks text → Prop
  | none => start ≤ stop
  | atom _ span rest => start ≤ span.start ∧ rest.Within span.stop stop
  | block _ span inside rest => start ≤ span.start ∧ inside.Within span.start span.stop ∧ rest.Within span.stop stop

def HasItem : Blocks text → Prop
  | none => False
  | atom _ _ rest => rest.HasItem
  | block tag _ _ rest => tag = .item ∨ rest.HasItem

def Listed : Blocks text → Prop
  | none => True
  | atom _ _ rest => rest.Listed
  | block tag _ inside rest => (tag = .list → inside.HasItem) ∧ inside.Listed ∧ rest.Listed

end Blocks

/-- The events of a text are those of blocks that are well nested, in the order of the text, and have items in their
lists. -/
def WellNested [Markdown] (text : List Char) : Prop :=
  ∃ blocks : Blocks text, events text = blocks.events ∧ blocks.Within 0 text.length ∧ blocks.Listed

end FlagSheet.Markdown
