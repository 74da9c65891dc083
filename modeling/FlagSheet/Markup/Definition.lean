import FlagSheet.Markup.Container

namespace FlagSheet.Markup.Definition

structure Place where
  rest : List Char
  ending : LineEnd
  following : List Line
deriving DecidableEq, Repr

def Place.dropSpace (p : Place) : Place := { p with rest := p.rest.dropWhile isInlineSpace }

def labelLimit : Nat := 1000

def wideBytes (c : Char) : Nat := if c.toNat < 128 then 0 else c.utf8Size

def continuation? (containers : List Container) (l : Line) (below : List Line) : Option Cursor :=
  let (_, left, c) := enterAll containers (.start l.text)
  if endsParagraph containers left.isEmpty c.rest below then none else some c

/-- The place behind the bracket that closes a label. `size` counts white space, escapes and wide
characters, `solid` says that the label has a visible character, and `breaks` counts the line ends since
the last one. -/
def afterLabel? (containers : List Container) (rest : List Char) (ending : LineEnd)
    (following : List Line) (size : Nat) (solid : Bool) (breaks : Nat) : Option Place :=
  if labelLimit ≤ size then none
  else
    match rest with
    | [] =>
      match following with
      | [] => none
      | l :: ls =>
        if 1 ≤ breaks then none
        else
          match continuation? containers l ls with
          | some c =>
            afterLabel? containers c.rest l.ending ls
              (size + ending.chars.length + (l.text.length - c.rest.length)) solid (breaks + 1)
          | none => none
    | c :: cs =>
      if c = '[' then none
      else if c = ']' then if solid then some ⟨cs, ending, following⟩ else none
      else if c = '\\' then
        match cs with
        | d :: ds => afterLabel? containers ds ending following (size + 2 + (wideBytes d - 1)) true 0
        | [] =>
          match following with
          | [] => none
          | l :: ls =>
            if ending = .both then
              match continuation? containers l ls with
              | some c =>
                afterLabel? containers c.rest l.ending ls
                  (size + 3 + (l.text.length - c.rest.length)) true 1
              | none => none
            else afterLabel? containers l.text l.ending ls (size + 2) true 0
      else if isInlineSpace c then
        afterLabel? containers cs ending following (size + 1) solid breaks
      else afterLabel? containers cs ending following (size + wideBytes c) true 0
termination_by (following.length, rest.length)

def afterAngled? : List Char → Option (List Char)
  | [] => none
  | '>' :: cs => some cs
  | '<' :: _ => none
  | '\\' :: c :: cs => if isPunctuation c then afterAngled? cs else afterAngled? (c :: cs)
  | _ :: cs => afterAngled? cs

def afterBare? (depth : Nat) : List Char → Option (List Char)
  | [] => if depth = 0 then some [] else none
  | c :: cs =>
    if c.toNat ≤ 0x20 then if depth = 0 then some (c :: cs) else none
    else if c = '(' then if 1 < depth then none else afterBare? (depth + 1) cs
    else if c = ')' then if depth = 0 then some (c :: cs) else afterBare? (depth - 1) cs
    else if c = '\\' then
      match cs with
      | d :: ds => if isPunctuation d then afterBare? depth ds else afterBare? depth (d :: ds)
      | [] => afterBare? depth []
    else afterBare? depth cs

def afterDestination? (cs : List Char) : Option (List Char) :=
  match cs with
  | '<' :: rest => afterAngled? rest
  | _ =>
    match afterBare? 0 cs with
    | some rest => if rest.length < cs.length then some rest else none
    | none => none

def titleEnd? (c : Char) : Option Char :=
  if c = '"' || c = '\x27' then some c else if c = '(' then some ')' else none

/-- The place behind `close`, which ends a title. The title may go on over line ends, but not over a line
of white space that a line feed alone ends. -/
def afterTitle? (close : Char) (rest : List Char) (ending : LineEnd) (following : List Line) :
    Option Place :=
  match rest with
  | c :: cs =>
    if c = '\\' then
      match cs with
      | _ :: ds => afterTitle? close ds ending following
      | [] =>
        match following with
        | [] => none
        | l :: ls =>
          if ending = .both && endsTitle l then none else afterTitle? close l.text l.ending ls
    else if c = close then some ⟨cs, ending, following⟩
    else afterTitle? close cs ending following
  | [] =>
    match following with
    | [] => none
    | l :: ls =>
      if ending != .carriageReturn && endsTitle l then none else afterTitle? close l.text l.ending ls
termination_by (following.length, rest.length)
where
  endsTitle (l : Line) : Bool := blankRest l.text && l.ending = .lineFeed

/-- White space with at most one line end in it, and whether there is one. None when the text ends there,
or when the next line is no continuation. -/
def gap? (containers : List Container) (p : Place) : Option (Place × Bool) :=
  let here := p.dropSpace
  if !here.rest.isEmpty then some (here, false)
  else
    match here.following with
    | [] => none
    | l :: ls =>
      let (_, left, c) := enterAll containers (.start l.text)
      let (indent, inner) := c.pass 4
      if indent < 4 && (endsParagraph containers left.isEmpty inner.rest ls ||
          (underlineDepth? inner.rest).isSome) then none
      else
        let there := Place.dropSpace ⟨inner.rest, l.ending, ls⟩
        if there.rest.isEmpty then none else some (there, true)

/-- The place where a definition that begins at `p` ends; nothing but white space is left on its line. -/
def endOf? (containers : List Container) (p : Place) : Option Place :=
  match p.rest with
  | '[' :: inner =>
    match afterLabel? containers inner p.ending p.following 0 false 0 with
    | some ⟨':' :: cs, ending, ls⟩ => do
      let (target, _) ← gap? containers ⟨cs, ending, ls⟩
      let after ← afterDestination? target.rest
      let untitled : Place := { target with rest := after }
      match gap? containers untitled with
      | none => some untitled
      | some (place, onNextLine) =>
        if !onNextLine && place.rest.length = after.length then none
        else
          let fallback := if onNextLine then some untitled else none
          match place.rest with
          | c :: cs =>
            match (titleEnd? c).bind (afterTitle? · cs place.ending place.following) with
            | some done => if blankRest done.rest then some done else fallback
            | none => fallback
          | [] => fallback
    | _ => none
  | _ => none

def extent? (containers : List Container) (p : Place) : Option Nat :=
  (endOf? containers p).map fun done => p.following.length - done.following.length

end FlagSheet.Markup.Definition
