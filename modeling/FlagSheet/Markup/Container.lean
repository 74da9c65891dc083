import FlagSheet.Markup.Marker
import FlagSheet.Markup.Html
import FlagSheet.Markup.Table

namespace FlagSheet.Markup

inductive Container where
  | quote
  | list (kind : Char) (tight : Bool)
  | item (indent : Nat)
deriving DecidableEq, Repr

def Container.enter? : Container → Cursor → Option Cursor
  | quote, c => (c.pass 3).2.quoteMark?
  | list _ _, c => some c
  | item indent, c =>
    let inner := c.pass indent
    if inner.1 = indent || inner.2.atEnd then some inner.2 else none

def enterAll : List Container → Cursor → List Container × List Container × Cursor
  | [], c => ([], [], c)
  | b :: bs, c =>
    match b.enter? c with
    | some c' =>
      let (entered, left, c'') := enterAll bs c'
      (b :: entered, left, c'')
    | none => ([], b :: bs, c)

/-- The line at `rest` begins a block that ends a row of text before it. In the paragraph's own
containers (`within`) an item has to be able to interrupt; in a table, and outside, any item may. -/
def endsText (within inTable : Bool) (rest : List Char) : Bool :=
  rest.isEmpty || isThematicBreak rest || (headingDepth? rest).isSome || (fence? rest).isSome ||
    rest.head? = some '>' || (Html.interrupting? rest).isSome ||
    (itemAhead? rest).any fun item => !within || inTable || item.interrupts

def beginsTable (containers : List Container) (names : List Char) : List Line → Bool
  | [] => false
  | below :: _ =>
    match enterAll containers (.start below.text) with
    | (_, [], c) => Table.isHead names c.rest
    | _ => false

def endsParagraph (containers : List Container) (within : Bool) (rest : List Char)
    (below : List Line) : Bool :=
  endsText within false rest || (within && beginsTable containers rest below)

end FlagSheet.Markup
