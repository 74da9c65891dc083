import FlagSheet.Markup.Definition

namespace FlagSheet.Markup

inductive Leaf where
  | paragraph
  | indentedCode
  | fencedCode (mark : Char) (length indent : Nat)
  | html (extent : Html.Extent)
  | tableHead
  | tableBody
  /-- The definition of a link target, with the number of lines still belonging to it. -/
  | definition (left : Nat)
deriving DecidableEq, Repr

structure Outline where
  containers : List Container
  leaf : Option Leaf
  begun : Bool
  afterBlank : Bool
deriving DecidableEq, Repr

inductive Role where
  | heading (depth : Nat)
  | paragraph
  | other
  | item (first : Bool)
deriving DecidableEq, Repr

inductive Part where
  | outside
  | inside
  | underline (depth : Nat)
  | first (role : Role)
deriving DecidableEq, Repr

namespace Outline

def empty : Outline := ⟨[], none, false, false⟩

def atTop (o : Outline) : Bool := o.containers.isEmpty

def opening (o : Outline) (role : Role) : Part := if o.atTop then .first role else .inside

def loosen : Container → Container
  | .list kind _ => .list kind false
  | b => b

/-- Closes the innermost container. A tight list takes the mark of an empty item with it. -/
def close (o : Outline) : Outline :=
  match o.containers with
  | .list _ true :: outer => { o with containers := outer, begun := false }
  | _ :: outer => { o with containers := outer }
  | [] => o

def closeTo (keep : Nat) (o : Outline) : Outline :=
  (List.range (o.containers.length - keep)).foldl (fun o _ => o.close) o

def endEmptyItem (o : Outline) : Outline :=
  match o.containers with
  | .item _ :: outer =>
    { o with containers := if o.begun && o.afterBlank then outer else o.containers, begun := false }
  | _ => { o with begun := false }

def endList (o : Outline) : Outline :=
  let o := o.endEmptyItem
  let o := match o.containers with
    | .list _ _ :: _ => o.close
    | _ => o
  if o.afterBlank then
    let containers := match o.containers with
      | inner :: outer :: rest => inner :: loosen outer :: rest
      | short => short
    { o with containers := containers, afterBlank := false }
  else o

def openItem (kind : Char) (indent : Nat) (o : Outline) : Outline × Part :=
  let o := o.endEmptyItem
  let goesOn : Bool := match o.containers with
    | .list k _ :: _ => k = kind
    | _ => false
  if goesOn then
    let containers := match o.containers with
      | l :: outer => (if o.afterBlank then loosen l else l) :: outer
      | [] => []
    ({ o with containers := .item indent :: containers, afterBlank := false },
      if containers.length = 1 then .first (.item false) else .inside)
  else
    let o := o.endList
    ({ o with containers := .item indent :: .list kind true :: o.containers, afterBlank := false },
      o.opening (.item true))

def openQuote (o : Outline) : Outline × Part :=
  let o := o.endList
  ({ o with containers := .quote :: o.containers }, o.opening .other)

def openLeaf (leaf : Option Leaf) (role : Role) (o : Outline) : Outline × Part :=
  let o := o.endList
  ({ o with leaf := leaf }, o.opening role)

def blankLine (o : Outline) : Outline × Part :=
  let part := if o.containers.length ≤ 1 then .outside else .inside
  match o.containers with
  | .quote :: _ => (o, .inside)
  | .item _ :: outer =>
    if o.begun then ({ o with containers := .item 0 :: outer, afterBlank := true }, part)
    else ({ o with afterBlank := true }, part)
  | _ => ({ o with afterBlank := true }, part)

def outermost (earlier later : Part) : Part :=
  match earlier with
  | .first role => .first role
  | _ => later

/-- Opens the containers whose marks stand at the front of a line. The place behind the marks is none
when the last of them is an item with an empty line. -/
def openContainers (o : Outline) (part : Part) (c : Cursor) : Outline × Part × Option Cursor :=
  let outer := c.pass 4
  if outer.1 < 4 then
    match _hi : item? outer.1 outer.2 with
    | some (kind, indent, inner) =>
      let (o, part') := o.openItem kind indent
      let part := outermost part part'
      if blankRest inner.rest then ({ o with begun := true }, part, none)
      else
        match _ht : task? inner with
        | some behind =>
          if blankRest behind.rest then ({ o with begun := true }, part, none)
          else openContainers o part behind
        | none => openContainers o part inner
    | none =>
      match _hq : outer.2.quoteMark? with
      | some inner =>
        let (o, part') := o.openQuote
        openContainers o (outermost part part') inner
      | none => (o, part, some c)
  else (o, part, some c)
termination_by c.rest.length
decreasing_by
  all_goals have hc : outer.2.rest.length ≤ c.rest.length := Cursor.length_pass 4 c
  · have := length_item _hi
    have := length_task _ht
    omega
  · have := length_item _hi
    omega
  · have := Cursor.length_quoteMark _hq
    omega

def definitionPart (o : Outline) : Part := if o.endList.atTop then .outside else .inside

/-- Opens a definition or a paragraph, or the table that the paragraph would begin. A definition leaves
the containers around it as they are until it ends. -/
def openText (o : Outline) (c : Cursor) (l : Line) (below : List Line) : Outline × Part :=
  match Definition.extent? o.containers.reverse ⟨c.rest, l.ending, below⟩ with
  | some left => ({ o with leaf := some (.definition left) }, o.definitionPart)
  | none =>
    if beginsTable o.endList.containers.reverse c.rest below then o.openLeaf (some .tableHead) .other
    else o.openLeaf (some .paragraph) .paragraph

def openBlock (o : Outline) (indent : Nat) (c : Cursor) (l : Line) (below : List Line) :
    Outline × Part :=
  match Html.block? c.rest with
  | some (.through closing) =>
    o.openLeaf (if Html.occursIn closing c.rest then none else some (.html (.through closing))) .other
  | some .beforeBlank => o.openLeaf (some (.html .beforeBlank)) .other
  | none =>
    if isThematicBreak c.rest then o.openLeaf none .other
    else
      match headingDepth? c.rest with
      | some depth => o.openLeaf none (.heading depth)
      | none =>
        match fence? c.rest with
        | some (mark, length) => o.openLeaf (some (.fencedCode mark length indent)) .other
        | none => o.openText c l below

def begin (o : Outline) (c : Cursor) (l : Line) (below : List Line) : Outline × Part :=
  match o.openContainers .inside c with
  | (o, part, none) => (o, part)
  | (o, part, some c) =>
    let (o, part') :=
      if blankRest c.rest then o.blankLine
      else
        let (indent, inner) := c.pass 4
        if indent = 4 then o.openLeaf (some .indentedCode) .other
        else o.openBlock indent inner l below
    (o, outermost part part')

inductive Reading where
  | taken (leaf : Option Leaf) (part : Part)
  | text (c : Cursor)
  | left

def readLeaf (o : Outline) (leaf : Leaf) (within : Bool) (c : Cursor) (below : List Line) : Reading :=
  let containers := o.containers.reverse
  match leaf with
  | .paragraph =>
    let (indent, inner) := c.pass 4
    let underline := if within && indent < 4 then underlineDepth? inner.rest else none
    match underline with
    | some depth => .taken none (if o.atTop then .underline depth else .inside)
    | none =>
      if (indent < 4 && endsParagraph containers within inner.rest below) ||
          inner.passAll.atEnd then .left
      else .taken (some .paragraph) .inside
  | .indentedCode =>
    let (indent, inner) := c.pass 4
    if within && (indent = 4 || inner.atEnd) then .taken (some .indentedCode) .inside else .left
  | .fencedCode mark length indent =>
    if within then
      let inner := (c.pass indent).2
      let (more, deeper) := inner.pass (4 - indent)
      if more < 4 - indent && closesFence mark length deeper.rest then .taken none .inside
      else .taken (some leaf) .inside
    else .left
  | .html (.through closing) =>
    if within then .taken (if Html.occursIn closing c.rest then none else some leaf) .inside
    else .left
  | .html .beforeBlank => if within && !blankRest c.rest then .taken (some leaf) .inside else .left
  | .tableHead => .taken (some .tableBody) .inside
  | .tableBody =>
    if within && !endsText true true c.passAll.rest then .taken (some .tableBody) .inside else .left
  | .definition (left + 1) =>
    .taken (some (.definition left)) o.definitionPart
  | .definition 0 =>
    let (indent, inner) := c.pass 4
    if indent < 4 && endsParagraph containers within inner.rest below then .left
    else .text inner.passAll

/-- A blank line in indented code counts as one for the list around it. -/
def afterBlankIn (o : Outline) (leaf : Option Leaf) (c : Cursor) : Bool :=
  if leaf = some .indentedCode then blankRest (c.pass 4).2.rest else o.afterBlank

def readFresh (o : Outline) (l : Line) (below : List Line) : Outline × Part :=
  let (entered, _, c) := enterAll o.containers.reverse (.start l.text)
  ({ o with leaf := none }.closeTo entered.length).begin c l below

def read (o : Outline) (l : Line) (below : List Line) : Outline × Part :=
  match o.leaf with
  | none => o.readFresh l below
  | some leaf =>
    let (_, left, c) := enterAll o.containers.reverse (.start l.text)
    match o.readLeaf leaf left.isEmpty c below with
    | .taken leaf' part => ({ o with leaf := leaf', afterBlank := o.afterBlankIn leaf' c }, part)
    | .text c => { o with leaf := none }.openText c l below
    | .left => (if leaf = .definition 0 then o.endList else o).readFresh l below

def parts (o : Outline) : List Line → List Part
  | [] => []
  | l :: below =>
    let (o, part) := o.read l below
    part :: parts o below

end Outline

end FlagSheet.Markup
