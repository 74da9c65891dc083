import FlagSheet.Proofs.Markdown.LineEnd
import FlagSheet.Proofs.Markup.Reader

namespace FlagSheet

namespace Markup

def LineEnd.crlf : LineEnd → LineEnd
  | bare => bare
  | lineFeed => both
  | carriageReturn => carriageReturn
  | both => both

def Line.crlf (l : Line) : Line := ⟨l.text, l.ending.crlf⟩

def Segment.crlf (s : Segment) : Segment := ⟨s.role, s.lines.map Line.crlf, s.behind.map Line.crlf⟩

def Layout.crlf (l : Layout) : Layout := ⟨l.front.map Line.crlf, l.segments.map Segment.crlf⟩

theorem lines_crlf {cs : List Char} (h : '\r' ∉ cs) : lines (Text.crlf cs) = (lines cs).map Line.crlf := by
  induction cs with
  | nil => rfl
  | cons c cs ih =>
      rw [List.mem_cons, not_or] at h
      by_cases hfeed : c = '\n'
      · subst hfeed
        change _ :: lines (Text.crlf cs) = _ :: (lines cs).map Line.crlf
        rw [ih h.2]
        rfl
      · have hcons : Text.crlf (c :: cs) = c :: Text.crlf cs := by simp [Text.crlf, hfeed]
        rw [hcons, lines_cons hfeed (Ne.symm h.1), lines_cons hfeed (Ne.symm h.1), ih h.2]
        cases lines cs <;> rfl

theorem beginsTable_crlf (containers : List Container) (names : List Char) (below : List Line) :
    beginsTable containers names (below.map Line.crlf) = beginsTable containers names below := by
  cases below <;> rfl

theorem endsParagraph_crlf (containers : List Container) (within : Bool) (rest : List Char) (below : List Line) :
    endsParagraph containers within rest (below.map Line.crlf) = endsParagraph containers within rest below := by
  rw [endsParagraph, endsParagraph, beginsTable_crlf]

namespace Outline

variable {o : Outline} {c : Cursor} {l : Line} {below : List Line}

def pending? (o : Outline) : Option Nat :=
  match o.leaf with
  | some (.definition left) => some left
  | _ => none

/-- The definitions of a text: for each line, how many more belong to the definition that it is in. -/
def definitions (o : Outline) : List Line → List (Option Nat)
  | [] => []
  | l :: below => (o.read l below).1.pending? :: definitions (o.read l below).1 below

theorem readLeaf_crlf (o : Outline) (leaf : Leaf) (within : Bool) (c : Cursor) (below : List Line) :
    o.readLeaf leaf within c (below.map Line.crlf) = o.readLeaf leaf within c below := by
  unfold readLeaf
  simp only [endsParagraph_crlf]

theorem openText_crlf
    (h : (o.openText c l.crlf (below.map Line.crlf)).1.pending? = (o.openText c l below).1.pending?) :
    o.openText c l.crlf (below.map Line.crlf) = o.openText c l below := by
  unfold openText at h ⊢
  rw [beginsTable_crlf] at h ⊢
  -- a definition is the one block whose extent may depend on how its lines end, and `h` compares the extents
  cases hreturn : Definition.extent? o.containers.reverse ⟨c.rest, l.crlf.ending, below.map Line.crlf⟩ with
  | some left =>
      cases hfeed : Definition.extent? o.containers.reverse ⟨c.rest, l.ending, below⟩ with
      | some left' =>
          rw [hreturn, hfeed] at h
          obtain rfl : left = left' := Option.some.inj h
          rfl
      | none =>
          rw [hreturn, hfeed] at h
          dsimp only at h
          split at h <;> cases h
  | none =>
      cases hfeed : Definition.extent? o.containers.reverse ⟨c.rest, l.ending, below⟩ with
      | some left =>
          rw [hreturn, hfeed] at h
          dsimp only at h
          split at h <;> cases h
      | none => rfl

theorem openBlock_crlf {indent : Nat}
    (h : (o.openBlock indent c l.crlf (below.map Line.crlf)).1.pending? =
      (o.openBlock indent c l below).1.pending?) :
    o.openBlock indent c l.crlf (below.map Line.crlf) = o.openBlock indent c l below := by
  unfold openBlock at h ⊢
  split
  · rfl
  · rfl
  · next hhtml =>
      rw [hhtml] at h
      dsimp only at h
      split
      · rfl
      · next hbreak =>
          rw [if_neg hbreak, if_neg hbreak] at h
          split
          · rfl
          · next hheading =>
              rw [hheading] at h
              dsimp only at h
              split
              · rfl
              · next hfence =>
                  rw [hfence] at h
                  exact openText_crlf h

theorem begin_crlf
    (h : (o.begin c l.crlf (below.map Line.crlf)).1.pending? = (o.begin c l below).1.pending?) :
    o.begin c l.crlf (below.map Line.crlf) = o.begin c l below := by
  unfold begin at h ⊢
  split
  · rfl
  · next o' part c' hopen =>
      rw [hopen] at h
      dsimp only at h ⊢
      split
      · rfl
      · next hblank =>
          rw [if_neg hblank, if_neg hblank] at h
          split
          · rfl
          · next hindent =>
              rw [if_neg hindent, if_neg hindent] at h
              rw [openBlock_crlf h]

theorem readFresh_crlf
    (h : (o.readFresh l.crlf (below.map Line.crlf)).1.pending? = (o.readFresh l below).1.pending?) :
    o.readFresh l.crlf (below.map Line.crlf) = o.readFresh l below := begin_crlf h

theorem read_crlf
    (h : (o.read l.crlf (below.map Line.crlf)).1.pending? = (o.read l below).1.pending?) :
    o.read l.crlf (below.map Line.crlf) = o.read l below := by
  unfold read at h ⊢
  split
  · next hleaf =>
      rw [hleaf] at h
      exact readFresh_crlf h
  · next leaf hleaf =>
      rw [hleaf] at h
      simp only [readLeaf_crlf, show l.crlf.text = l.text from rfl] at h ⊢
      split
      · rfl
      · next hreading =>
          rw [hreading] at h
          exact openText_crlf h
      · next hreading =>
          rw [hreading] at h
          exact readFresh_crlf h

theorem parts_crlf {ls : List Line} (h : o.definitions (ls.map Line.crlf) = o.definitions ls) :
    o.parts (ls.map Line.crlf) = o.parts ls := by
  induction ls generalizing o with
  | nil => rfl
  | cons l below ih =>
      obtain ⟨hpending, hbelow⟩ := List.cons.inj h
      have hread := read_crlf hpending
      rw [hread] at hbelow
      rw [List.map_cons, parts, parts, hread]
      exact congrArg (_ :: ·) (ih hbelow)

end Outline

def SameDefinitions (cs : List Char) : Prop :=
  Outline.empty.definitions (lines (Text.crlf cs)) = Outline.empty.definitions (lines cs)

theorem Layout.gather_crlf (parts : List Part) (ls : List Line) :
    gather parts (ls.map Line.crlf) = (gather parts ls).crlf := by
  have hfold : (parts.zip (ls.map Line.crlf)).foldr (fun p t => Tail.add p.1 p.2 t) ⟨[], [], none, []⟩ =
      (fun t : Tail => (⟨t.lines.map Line.crlf, t.behind.map Line.crlf, t.underlined, t.segments.map Segment.crlf⟩ : Tail))
        ((parts.zip ls).foldr (fun p t => Tail.add p.1 p.2 t) ⟨[], [], none, []⟩) := by
    rw [List.zip_map_right, List.foldr_map]
    induction parts.zip ls with
    | nil => rfl
    | cons p ps ih =>
        rw [List.foldr_cons, List.foldr_cons, ih]
        obtain ⟨part, l⟩ := p
        cases part with
        | outside => simp [Tail.add]
        | inside | underline | first => rfl
  rw [gather, hfold, gather, crlf, List.map_append]

theorem Layout.layout_crlf {cs : List Char} (hcs : '\r' ∉ cs) (h : SameDefinitions cs) :
    ofText (Text.crlf cs) = (ofText cs).crlf := by
  rw [SameDefinitions, lines_crlf hcs] at h
  rw [ofText, lines_crlf hcs, Outline.parts_crlf h, gather_crlf, ofText]

open Text (Returned)

theorem returned_lines (ls : List Line) :
    Returned (ls.flatMap Line.source) ((ls.map Line.crlf).flatMap Line.source) := by
  induction ls with
  | nil => exact .nil
  | cons l ls ih =>
      simp only [List.map_cons, List.flatMap_cons, Line.source, Line.crlf, List.append_assoc]
      refine .append l.text ?_
      cases l.ending with
      | bare => exact ih
      | lineFeed => exact .feed ih
      | carriageReturn => exact .append ['\r'] ih
      | both => exact .append ['\r', '\n'] ih

variable {text text' : List Char}

def Segment.sources (segments : List Segment) : List Char :=
  (segments.flatMap fun s => s.lines ++ s.behind).flatMap Line.source

theorem Segment.sources_cons (s : Segment) (segments : List Segment) :
    sources (s :: segments) = s.lines.flatMap Line.source ++ (s.behind.flatMap Line.source ++ sources segments) := by
  simp [sources]

theorem same_add {s : Siblings text} {s' : Siblings text'}
    (h : s.items.Same false s'.items ∧ s.blocks.Same true s'.blocks) {span : Span text} {span' : Span text'}
    (hchars : Returned span.chars span'.chars) (role : Role) :
    (s.add role span).items.Same false (s'.add role span').items ∧
      (s.add role span).blocks.Same true (s'.add role span').blocks := by
  obtain ⟨hitems, hblocks⟩ := h
  have hempty : Markdown.Blocks.Same false (.none : Markdown.Blocks text) (.none : Markdown.Blocks text') := .none false
  cases role with
  | heading | paragraph | other => exact ⟨hempty, .block (fun _ => hchars) hempty hblocks⟩
  | item first =>
      have hlist : Markdown.Blocks.Same false (.block .item span .none s.items) (.block .item span' .none s'.items) :=
        .block (fun _ => hchars) hempty hitems
      cases first with
      | false => exact ⟨hlist, hblocks⟩
      | true => exact ⟨hempty, .block (absurd rfl) hlist hblocks⟩

theorem same_siblings {segments : List Segment} {before before' : List Char}
    (h : before ++ Segment.sources segments = text)
    (h' : before' ++ Segment.sources (segments.map Segment.crlf) = text') :
    let s := siblings text before.length segments
    let s' := siblings text' before'.length (segments.map Segment.crlf)
    s.items.Same false s'.items ∧ s.blocks.Same true s'.blocks := by
  induction segments generalizing before before' with
  | nil => exact ⟨.none false, .none true⟩
  | cons s segments ih =>
      rw [Segment.sources_cons] at h
      rw [List.map_cons, Segment.sources_cons] at h'
      have hreturned : Returned (Span.between text before.length (before.length + length s.lines)).chars
          (Span.between text' before'.length (before'.length + length s.crlf.lines)).chars := by
        have hchars : (Span.between text before.length (before.length + length s.lines)).chars = _ := Span.chars_between h
        have hchars' : (Span.between text' before'.length (before'.length + length s.crlf.lines)).chars = _ :=
          Span.chars_between h'
        rw [hchars, hchars']
        exact returned_lines s.lines
      rw [← List.append_assoc, ← List.append_assoc] at h h'
      have hrest := ih h h'
      simp only [List.length_append] at hrest
      exact same_add hrest hreturned s.role

theorem Layout.sources_ofText (text : List Char) :
    (ofText text).front.flatMap Line.source ++ Segment.sources (ofText text).segments = text := by
  rw [Segment.sources, ← List.flatMap_append, ← lines, lines_ofText, flatMap_source_lines]

/-- A text with the same definitions has the same blocks. -/
theorem readsCrlf (hreturn : '\r' ∉ text) (h : SameDefinitions text) : Markdown.ReadsCrlf text := by
  have hlayout := Layout.layout_crlf hreturn h
  have hsources := Layout.sources_ofText (Text.crlf text)
  rw [hlayout] at hsources
  have hsame := same_siblings (Layout.sources_ofText text) hsources
  refine ⟨blocks text, blocks (Text.crlf text), rfl, rfl, ?_⟩
  rw [blocks, blocks, hlayout]
  exact hsame.2

end Markup

end FlagSheet
