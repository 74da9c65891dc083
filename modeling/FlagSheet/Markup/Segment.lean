import FlagSheet.Markup.Outline

namespace FlagSheet.Markup

structure Segment where
  role : Role
  lines : List Line
  behind : List Line
deriving DecidableEq, Repr

/-- A document from some line on. The lines in front of its segments belong to one that began before, or to none. -/
structure Layout where
  front : List Line
  segments : List Segment

namespace Layout

structure Tail where
  lines : List Line
  behind : List Line
  underlined : Option Nat
  segments : List Segment

def Tail.add (part : Part) (l : Line) (t : Tail) : Tail :=
  match part with
  | .outside => ⟨[], l :: (t.lines ++ t.behind), none, t.segments⟩
  | .inside => { t with lines := l :: t.lines }
  | .underline depth => { t with lines := l :: t.lines, underlined := some depth }
  | .first role =>
    let role := (t.underlined.map Role.heading).getD role
    ⟨[], [], none, ⟨role, l :: t.lines, t.behind⟩ :: t.segments⟩

def gather (parts : List Part) (ls : List Line) : Layout :=
  let t := (parts.zip ls).foldr (fun p t => Tail.add p.1 p.2 t) ⟨[], [], none, []⟩
  ⟨t.lines ++ t.behind, t.segments⟩

def ofText (cs : List Char) : Layout :=
  let ls := Markup.lines cs
  gather (Outline.empty.parts ls) ls

end Layout

end FlagSheet.Markup
