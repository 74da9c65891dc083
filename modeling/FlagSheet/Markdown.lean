namespace FlagSheet

/-- A range of a text that can be cut out of it. Its ends are counted in characters. -/
structure Span (text : List Char) where
  start : Nat
  stop : Nat
  ordered : start ≤ stop
  bounded : stop ≤ text.length

namespace Span

variable {text : List Char}

def chars (s : Span text) : List Char := (text.drop s.start).take (s.stop - s.start)

def raw (s : Span text) : String := String.ofList s.chars

/-- The part of a range of places that lies in the text. -/
def between (text : List Char) (start stop : Nat) : Span text where
  start := min (min start stop) text.length
  stop := min stop text.length
  ordered := by omega
  bounded := by omega

end Span

namespace Markdown

inductive HeadingLevel where
  | h1
  | h2
  | h3
  | h4
  | h5
  | h6
deriving DecidableEq, Repr

def HeadingLevel.depth : HeadingLevel → UInt8
  | h1 => 1
  | h2 => 2
  | h3 => 3
  | h4 => 4
  | h5 => 5
  | h6 => 6

inductive Tag where
  | heading (level : HeadingLevel)
  | list
  | item
  | paragraph
  | other
deriving DecidableEq, Repr

inductive Atom where
  | rule
  | html
  | other
deriving DecidableEq, Repr

inductive Event where
  | start (tag : Tag)
  | stop
  | atom (a : Atom)
deriving DecidableEq, Repr

end Markdown

/-- A parser of marked-up text. What is read here are its events, each with its range in the text. -/
class Markdown where
  events (text : List Char) : List (Markdown.Event × Span text)

end FlagSheet
