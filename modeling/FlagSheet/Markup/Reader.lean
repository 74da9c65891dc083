import FlagSheet.Markdown.Blocks
import FlagSheet.Markup.Segment

namespace FlagSheet.Markup

open Markdown (Blocks HeadingLevel)

def level : Nat → HeadingLevel
  | 1 => .h1
  | 2 => .h2
  | 3 => .h3
  | 4 => .h4
  | 5 => .h5
  | _ => .h6

def length (ls : List Line) : Nat := (ls.flatMap Line.source).length

def stop {text : List Char} (start : Nat) : Blocks text → Nat
  | .none => start
  | .atom _ span rest | .block _ span _ rest => stop span.stop rest

structure Siblings (text : List Char) where
  items : Blocks text
  blocks : Blocks text

variable {text : List Char}

def Siblings.add (role : Role) (span : Span text) (s : Siblings text) : Siblings text :=
  match role with
  | .heading depth => ⟨.none, .block (.heading (level depth)) span .none s.blocks⟩
  | .paragraph => ⟨.none, .block .paragraph span .none s.blocks⟩
  | .other => ⟨.none, .block .other span .none s.blocks⟩
  | .item false => ⟨.block .item span .none s.items, s.blocks⟩
  | .item true =>
    ⟨.none, .block .list (.between text span.start (stop span.stop s.items)) (.block .item span .none s.items) s.blocks⟩

def siblings (text : List Char) (start : Nat) : List Segment → Siblings text
  | [] => ⟨.none, .none⟩
  | s :: segments =>
    let behind := start + length s.lines
    (siblings text (behind + length s.behind) segments).add s.role (.between text start behind)

/-- The blocks of a text. What is inside of those at the top and of the items of lists there is left out. -/
def blocks (text : List Char) : Blocks text :=
  let layout := Layout.ofText text
  (siblings text (length layout.front) layout.segments).blocks

instance : Markdown := ⟨fun text => (blocks text).events⟩

end FlagSheet.Markup
