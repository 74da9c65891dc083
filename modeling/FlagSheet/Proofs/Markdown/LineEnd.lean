import FlagSheet.Markdown.Blocks
import FlagSheet.Proofs.Text.LineEnd

namespace FlagSheet.Markdown

open Text (Returned crlf)

variable {text text' : List Char}

/-- The same blocks in two texts whose lines end in different ways. A list has its text from its items. Within a block, what
is written there may be told by more atoms in one text than in the other. -/
inductive Blocks.Same : (atTop : Bool) → Blocks text → Blocks text' → Prop
  | none (atTop : Bool) : Same atTop none none
  | atom {atTop : Bool} {a : Atom} {span : Span text} {span' : Span text'} {rest : Blocks text} {rest' : Blocks text'}
      (hchars : Returned span.chars span'.chars) (hrest : Same atTop rest rest') :
      Same atTop (atom a span rest) (atom a span' rest')
  | more {atTop : Bool} {a : Atom} {span : Span text} {rest : Blocks text} {b' : Blocks text'}
      (hatom : atTop = true → a = .other) (hrest : Same atTop rest b') : Same atTop (atom a span rest) b'
  | fewer {atTop : Bool} {a : Atom} {span' : Span text'} {b : Blocks text} {rest' : Blocks text'}
      (hatom : atTop = true → a = .other) (hrest : Same atTop b rest') : Same atTop b (atom a span' rest')
  | block {atTop : Bool} {tag : Tag} {span : Span text} {span' : Span text'} {inside rest : Blocks text}
      {inside' rest' : Blocks text'} (hchars : tag ≠ .list → Returned span.chars span'.chars)
      (hinside : Same false inside inside') (hrest : Same atTop rest rest') :
      Same atTop (block tag span inside rest) (block tag span' inside' rest')

/-- A text has the same blocks with a carriage return before each of its line feeds. -/
def ReadsCrlf [Markdown] (text : List Char) : Prop :=
  ∃ (b : Blocks text) (b' : Blocks (crlf text)), events text = b.events ∧ events (crlf text) = b'.events ∧ b.Same true b'

end FlagSheet.Markdown
