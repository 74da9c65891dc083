import FlagSheet.Proofs.Markdown.Checklist
import FlagSheet.Proofs.Markup.Reader

namespace FlagSheet.Markup

open Text (Name)
open Markdown (CheckItem Checklist)

theorem lines_append_lineFeed {cs : List Char} (hfeed : '\n' ∉ cs) (hreturn : '\r' ∉ cs) (rest : List Char) :
    lines (cs ++ '\n' :: rest) = ⟨cs, .lineFeed⟩ :: lines rest := by
  induction cs with
  | nil => rfl
  | cons c cs ih =>
      rw [List.mem_cons, not_or] at hfeed hreturn
      rw [List.cons_append, lines_cons (Ne.symm hfeed.1) (Ne.symm hreturn.1), ih hfeed.2 hreturn.2]
      rfl

def Line.Whole (l : Line) : Prop := l.ending = .lineFeed ∧ '\n' ∉ l.text ∧ '\r' ∉ l.text

theorem lines_flatMap_source {ls : List Line} (h : ∀ l ∈ ls, l.Whole) : lines (ls.flatMap Line.source) = ls := by
  induction ls with
  | nil => rfl
  | cons l ls ih =>
      rw [List.forall_mem_cons] at h
      obtain ⟨⟨hending, hfeed, hreturn⟩, hrest⟩ := h
      rw [List.flatMap_cons, Line.source, hending, LineEnd.chars, List.append_assoc, List.singleton_append,
        lines_append_lineFeed hfeed hreturn, ih hrest, ← hending]

def lineOf (cs : List Char) : Line := ⟨cs, .lineFeed⟩

theorem whole_item (i : CheckItem) : (lineOf i.chars).Whole :=
  ⟨rfl, i.not_mem_chars (.inl rfl), i.not_mem_chars (.inr rfl)⟩

theorem not_mem_heading (c : Checklist) {x : Char} (hx : Text.isAlphanumeric x = false) (hspace : x ≠ ' ')
    (hmark : x ≠ '#') : x ∉ c.heading := by
  simp [Checklist.heading, Markdown.HeadingLevel.marks, List.mem_replicate, hspace, hmark, c.title.not_mem hx hspace]

theorem whole_heading (c : Checklist) : (lineOf c.heading).Whole :=
  ⟨rfl, not_mem_heading c rfl (by decide) (by decide), not_mem_heading c rfl (by decide) (by decide)⟩

namespace Cursor

variable {c : Char}

theorem passSpaces_of_solid (hspace : c ≠ ' ') (htab : c ≠ '\t') (column n : Nat) (cs : List Char) :
    passSpaces column n (c :: cs) = (0, ⟨column, 0, c :: cs⟩) := by
  rw [passSpaces]
  · simpa using hspace
  · simpa using htab

theorem pass_of_solid (hspace : c ≠ ' ') (htab : c ≠ '\t') (column n : Nat) (cs : List Char) :
    (⟨column, 0, c :: cs⟩ : Cursor).pass n = (0, ⟨column, 0, c :: cs⟩) := by
  unfold pass
  split
  · next hn =>
      obtain rfl : n = 0 := Nat.le_zero.1 hn
      rfl
  · dsimp only
    rw [passSpaces_of_solid hspace htab]
    rfl

theorem pass_space (hspace : c ≠ ' ') (htab : c ≠ '\t') (column n : Nat) (cs : List Char) :
    (⟨column, 0, ' ' :: c :: cs⟩ : Cursor).pass (n + 1) = (1, ⟨column + 1, 0, c :: cs⟩) := by
  rw [pass, if_neg (by simp)]
  dsimp only
  rw [passSpaces, if_neg (by simp), passSpaces_of_solid hspace htab]
  rfl

theorem pass_name (name : Name) (column n : Nat) :
    (⟨column, 0, ' ' :: name.chars⟩ : Cursor).pass (n + 1) = (1, ⟨column + 1, 0, name.chars⟩) := by
  obtain ⟨c, cs, hname, hne⟩ := name.exists_cons
  rw [hname]
  exact pass_space (hne ' ' rfl) (hne '\t' rfl) column n cs

end Cursor

theorem blankRest_name (name : Name) : blankRest (' ' :: name.chars) = false := by
  obtain ⟨c, cs, hname, hne⟩ := name.exists_cons
  simp [hname, blankRest, isInlineSpace, hne ' ' rfl, hne '\t' rfl, hne '\x0b' rfl, hne '\x0c' rfl]

theorem ordinal?_eq_none {cs : List Char} (hdot : '.' ∉ cs) (hclose : ')' ∉ cs) : ordinal? cs = none := by
  unfold ordinal?
  dsimp only
  split
  · next c rest h =>
      have hc : c ∈ cs := List.mem_of_mem_drop (h ▸ List.mem_cons_self)
      have hdelimiter : c ≠ '.' ∧ c ≠ ')' := ⟨fun hd => hdot (hd ▸ hc), fun hd => hclose (hd ▸ hc)⟩
      simp [hdelimiter]
  · rfl

theorem itemMark?_eq_none {cs : List Char} (hbullet : ∀ c ∈ cs.head?, isBulletMark c = false) (hdot : '.' ∉ cs)
    (hclose : ')' ∉ cs) : itemMark? cs = none := by
  cases cs with
  | nil => rfl
  | cons c cs =>
      simp only [itemMark?, hbullet c rfl, ordinal?_eq_none hdot hclose]
      rfl

theorem Table.length_cells {row : List Char} (h : '|' ∉ row) : (Table.cells row).length = 1 := by
  fun_induction Table.cells row with
  | case1 => rfl
  | case2 rest => exact absurd List.mem_cons_self h
  | case3 | case4 | case5 | case6 => simp_all

theorem beginsTable_eq_false {row : List Char} (h : '|' ∉ row) (containers : List Container) (below : List Line) :
    beginsTable containers row below = false := by
  have hhead (rule : List Char) : Table.isHead row rule = false := by
    simp [Table.isHead, Table.nameColumns?, Table.length_cells h]
  unfold beginsTable
  split
  · rfl
  · split
    · exact hhead _
    · rfl

theorem item?_checkItem (i : CheckItem) : item? 0 (.start i.chars) = some ('-', 2, ⟨2, 0, i.chars.drop 2⟩) := by
  have hmark : itemMark? i.chars = some ('-', 1) := by
    simp [itemMark?, isBulletMark, isThematicBreak, CheckItem.chars, CheckItem.mark]
  have hgap : ((Cursor.start i.chars).drop 1).pass 1 = (1, ⟨2, 0, i.chars.drop 2⟩) := rfl
  have hcontent : itemContent 2 ⟨2, 0, i.chars.drop 2⟩ = (2, ⟨2, 0, i.chars.drop 2⟩) := by
    have hpass : (⟨2, 0, i.chars.drop 2⟩ : Cursor).pass 4 = (0, ⟨2, 0, i.chars.drop 2⟩) :=
      Cursor.pass_of_solid (by decide) (by decide) 2 4 _
    rw [itemContent, hpass]
    rfl
  rw [item?, show itemMark? (Cursor.start i.chars).rest = _ from hmark]
  dsimp only
  rw [hgap, if_pos (.inl rfl), hcontent]

theorem task?_checkItem (i : CheckItem) : task? ⟨2, 0, i.chars.drop 2⟩ = some ⟨5, 0, ' ' :: i.name.chars⟩ := by
  have hpass : (⟨2, 0, i.chars.drop 2⟩ : Cursor).pass 3 = (0, ⟨2, 0, i.chars.drop 2⟩) :=
    Cursor.pass_of_solid (by decide) (by decide) 2 3 _
  rw [task?, hpass]
  cases hchecked : i.checked <;> simp [CheckItem.chars, CheckItem.mark, hchecked, isInlineSpace, Cursor.drop]

theorem headingDepth?_heading (c : Checklist) : headingDepth? c.heading = some c.level.depth.toNat := by
  have hrun : runLength '#' c.heading = c.level.depth.toNat := by
    simp [runLength, Checklist.heading, Markdown.HeadingLevel.marks]
  have hdrop : c.heading.drop c.level.depth.toNat = ' ' :: c.title.chars := by
    simp [Checklist.heading, Markdown.HeadingLevel.marks]
  have hdepth : 1 ≤ c.level.depth.toNat ∧ c.level.depth.toNat ≤ 6 := by cases c.level <;> decide
  simp [headingDepth?, hrun, hdrop, hdepth, isInlineSpace]

namespace Outline

variable (o : Outline) {column : Nat}

theorem openBlock_name (name : Name) (indent : Nat) (l : Line) (below : List Line) :
    o.openBlock indent ⟨column, 0, name.chars⟩ l below = o.openLeaf (some .paragraph) .paragraph := by
  obtain ⟨c, cs, hname, hne⟩ := name.exists_cons
  have hhtml : Html.block? name.chars = none := by
    simp [hname, Html.block?, Html.interrupting?, hne '<' rfl]
  have hbreak : isThematicBreak name.chars = false := by
    simp [hname, isThematicBreak, hne '*' rfl, hne '-' rfl, hne '_' rfl]
  have hheading : headingDepth? name.chars = none := by
    simp [hname, headingDepth?, runLength, hne '#' rfl]
  have hfence : fence? name.chars = none := by
    simp [hname, fence?, hne '\x60' rfl, hne '~' rfl]
  have hdefinition : Definition.extent? o.containers.reverse ⟨name.chars, l.ending, below⟩ = none := by
    simp [hname, Definition.extent?, Definition.endOf?, hne '[' rfl]
  have htable := beginsTable_eq_false (name.not_mem (c := '|') rfl (by decide)) o.endList.containers.reverse below
  rw [openBlock, hhtml, hbreak, hheading, hfence]
  simp only [openText, hdefinition, htable]
  rfl

theorem openContainers_of_unmarked {c : Cursor} (part : Part) (hitem : item? (c.pass 4).1 (c.pass 4).2 = none)
    (hquote : (c.pass 4).2.quoteMark? = none) : o.openContainers part c = (o, part, some c) := by
  rw [openContainers]
  dsimp only
  split
  · split
    · next h =>
        rw [hitem] at h
        cases h
    · split
      · next h =>
          rw [hquote] at h
          cases h
      · rfl
  · rfl

theorem openContainers_of_task {c inner behind : Cursor} {kind : Char} {indent : Nat} (part : Part)
    (hindent : (c.pass 4).1 < 4) (hitem : item? (c.pass 4).1 (c.pass 4).2 = some (kind, indent, inner))
    (hinner : blankRest inner.rest = false) (htask : task? inner = some behind)
    (hbehind : blankRest behind.rest = false) :
    o.openContainers part c =
      (o.openItem kind indent).1.openContainers (outermost part (o.openItem kind indent).2) behind := by
  rw [openContainers]
  dsimp only
  rw [if_pos hindent]
  split
  · next h =>
      cases hitem.symm.trans h
      rw [hinner, if_neg Bool.false_ne_true]
      split
      · next h =>
          cases htask.symm.trans h
          rw [hbehind, if_neg Bool.false_ne_true]
      · next h => cases htask.symm.trans h
  · next h => cases hitem.symm.trans h

theorem openContainers_item (i : CheckItem) (part : Part) :
    o.openContainers part (.start i.chars) =
      ((o.openItem '-' 2).1, outermost part (o.openItem '-' 2).2, some ⟨5, 0, ' ' :: i.name.chars⟩) := by
  obtain ⟨c, cs, hname, hne⟩ := i.name.exists_cons
  have hmark : (Cursor.start i.chars).pass 4 = (0, .start i.chars) := Cursor.pass_of_solid (by decide) (by decide) 0 4 _
  have hspace := Cursor.pass_name i.name 5 3
  have hunmarked : itemMark? i.name.chars = none := by
    refine itemMark?_eq_none ?_ (i.name.not_mem rfl (by decide)) (i.name.not_mem rfl (by decide))
    simp [hname, isBulletMark, hne '-' rfl, hne '+' rfl, hne '*' rfl]
  have hitem : item? 1 ⟨6, 0, i.name.chars⟩ = none := by rw [item?, hunmarked]
  have hquote : (⟨6, 0, i.name.chars⟩ : Cursor).quoteMark? = none := by
    simp [Cursor.quoteMark?, hname, hne '>' rfl]
  rw [o.openContainers_of_task part (by rw [hmark]; exact Nat.zero_lt_succ 3) (by rw [hmark]; exact item?_checkItem i) rfl
      (task?_checkItem i) (blankRest_name i.name),
    openContainers_of_unmarked _ _ (by rw [hspace]; exact hitem) (by rw [hspace]; exact hquote)]

theorem begin_item (i : CheckItem) (l : Line) (below : List Line) :
    o.begin (.start i.chars) l below =
      (((o.openItem '-' 2).1.openLeaf (some .paragraph) .paragraph).1,
        outermost (outermost .inside (o.openItem '-' 2).2)
          ((o.openItem '-' 2).1.openLeaf (some .paragraph) .paragraph).2) := by
  rw [begin, openContainers_item]
  dsimp only
  rw [blankRest_name, if_neg Bool.false_ne_true, Cursor.pass_name]
  dsimp only
  rw [if_neg (by decide), openBlock_name]

theorem begin_heading (c : Checklist) (l : Line) (below : List Line) :
    o.begin (.start c.heading) l below = o.openLeaf none (.heading c.level.depth.toNat) := by
  obtain ⟨cs, hcs⟩ := c.exists_heading
  have hpass : (Cursor.start c.heading).pass 4 = (0, .start c.heading) := by
    rw [hcs]
    exact Cursor.pass_of_solid (by decide) (by decide) 0 4 _
  have hitem : item? 0 (.start c.heading) = none := by
    rw [item?, show itemMark? (Cursor.start c.heading).rest = none from ?_]
    refine itemMark?_eq_none ?_ (not_mem_heading c rfl (by decide) (by decide))
      (not_mem_heading c rfl (by decide) (by decide))
    change ∀ x ∈ c.heading.head?, isBulletMark x = false
    simp [hcs, isBulletMark]
  have hquote : (Cursor.start c.heading).quoteMark? = none := by
    rw [hcs]
    rfl
  have hblank : blankRest (Cursor.start c.heading).rest = false := by
    rw [hcs]
    rfl
  have hblock (indent : Nat) : o.openBlock indent (.start c.heading) l below = o.openLeaf none (.heading c.level.depth.toNat) := by
    have hhtml : Html.block? c.heading = none := by rw [hcs]; rfl
    have hbreak : isThematicBreak c.heading = false := by rw [hcs]; rfl
    simp only [openBlock, Cursor.start, hhtml, hbreak, headingDepth?_heading c]
    rfl
  rw [begin, openContainers_of_unmarked _ _ (by rw [hpass]; exact hitem) (by rw [hpass]; exact hquote)]
  dsimp only
  rw [hblank, if_neg Bool.false_ne_true, hpass]
  dsimp only
  rw [if_neg (by decide), hblock]
  rfl

/-- The outline behind a heading, or behind an item. Behind an item its list and its text are still open, and the line
below has to end them. -/
def behind (isItem : Bool) : Outline :=
  if isItem then ⟨[.item 2, .list '-' true], some .paragraph, false, false⟩ else empty

theorem read_behind_item {l : Line} {c : Char} {cs : List Char} (hl : l.text = c :: cs) (hspace : c ≠ ' ')
    (htab : c ≠ '\t') (hends : endsText false false l.text = true) (below : List Line) :
    (behind true).read l below = (⟨[.list '-' true], none, false, false⟩ : Outline).begin (.start l.text) l below := by
  have hpass (n : Nat) : (Cursor.start l.text).pass n = (0, .start l.text) := by
    rw [hl]
    exact Cursor.pass_of_solid hspace htab 0 n cs
  have hrest : (Cursor.start l.text).atEnd = false := by
    rw [hl]
    rfl
  have hleave : (Container.item 2).enter? (.start l.text) = none := by simp [Container.enter?, hpass, hrest]
  have henter : enterAll (behind true).containers.reverse (.start l.text) =
      ([.list '-' true], [.item 2], .start l.text) := by
    simp [behind, enterAll, hleave, show (Container.list '-' true).enter? (.start l.text) = some (.start l.text) from rfl]
  -- no lazy continuation: the line is not one that goes on with the text of the item it has left
  have hleaf : (behind true).readLeaf .paragraph false (.start l.text) below = .left := by
    simp [readLeaf, hpass, endsParagraph, show (Cursor.start l.text).rest = l.text from rfl, hends]
  have hfresh : (behind true).readFresh l below =
      (⟨[.list '-' true], none, false, false⟩ : Outline).begin (.start l.text) l below := by
    rw [readFresh, henter]
    rfl
  rw [read, show (behind true).leaf = some .paragraph from rfl]
  dsimp only
  rw [henter]
  dsimp only
  rw [show [Container.item 2].isEmpty = false from rfl, hleaf]
  exact hfresh

theorem read_item (isItem : Bool) (i : CheckItem) (below : List Line) :
    (behind isItem).read (lineOf i.chars) below = (behind true, .first (.item !isItem)) := by
  cases isItem with
  | false =>
      change empty.begin (.start i.chars) _ below = _
      rw [begin_item]
      rfl
  | true =>
      have hends : endsText false false i.chars = true := by
        simp [endsText, itemAhead?, CheckItem.chars, CheckItem.mark, isBulletMark, itemAhead?.ahead]
      rw [read_behind_item rfl (by decide) (by decide) hends]
      change Outline.begin _ (.start i.chars) _ below = _
      rw [begin_item]
      rfl

theorem read_heading (isItem : Bool) (c : Checklist) (below : List Line) :
    (behind isItem).read (lineOf c.heading) below = (behind false, .first (.heading c.level.depth.toNat)) := by
  cases isItem with
  | false =>
      change empty.begin (.start c.heading) _ below = _
      rw [begin_heading]
      rfl
  | true =>
      obtain ⟨cs, hcs⟩ := c.exists_heading
      have hends : endsText false false c.heading = true := by simp [endsText, headingDepth?_heading c]
      rw [read_behind_item hcs (by decide) (by decide) hends]
      change Outline.begin _ (.start c.heading) _ below = _
      rw [begin_heading]
      rfl

end Outline

abbrev Row := Role × List Char

/-- Items with their roles. The first one begins a list unless an item stands before it. -/
def itemRows (isItem : Bool) : List CheckItem → List Row
  | [] => []
  | i :: is => (.item !isItem, i.chars) :: itemRows true is

def rows (c : Checklist) : List Row := (.heading c.level.depth.toNat, c.heading) :: itemRows false c.items

theorem map_snd_itemRows (isItem : Bool) (is : List CheckItem) : (itemRows isItem is).map (·.2) = is.map CheckItem.chars := by
  induction is generalizing isItem with
  | nil => rfl
  | cons i is ih => exact congrArg (i.chars :: ·) (ih true)

theorem map_snd_rows (cs : List Checklist) : (cs.flatMap rows).map (·.2) = cs.flatMap Checklist.lines := by
  rw [List.map_flatMap]
  exact congrArg (List.flatMap · cs) (funext fun c => congrArg (c.heading :: ·) (map_snd_itemRows false c.items))

namespace Outline

theorem parts_items (isItem : Bool) (is : List CheckItem) (below : List Line) :
    (behind isItem).parts (is.map (lineOf ·.chars) ++ below) =
      (itemRows isItem is).map (.first ·.1) ++ (behind (isItem || !is.isEmpty)).parts below := by
  induction is generalizing isItem with
  | nil =>
      rw [List.isEmpty_nil, Bool.not_true, Bool.or_false]
      rfl
  | cons i is ih =>
      rw [List.map_cons, List.cons_append, parts, read_item]
      dsimp only
      rw [ih, Bool.true_or, List.isEmpty_cons, Bool.not_false, Bool.or_true]
      rfl

theorem parts_checklists (isItem : Bool) (cs : List Checklist) :
    (behind isItem).parts ((cs.flatMap Checklist.lines).map lineOf) = (cs.flatMap rows).map (.first ·.1) := by
  induction cs generalizing isItem with
  | nil => rfl
  | cons c cs ih =>
      rw [List.flatMap_cons, Checklist.lines, List.cons_append, List.map_cons, List.map_append, List.map_map, parts,
        read_heading]
      dsimp only
      rw [Function.comp_def, parts_items, ih, List.flatMap_cons, List.map_append]
      rfl

end Outline

def ofRow (r : Row) : Segment := ⟨r.1, [lineOf r.2], []⟩

theorem gather_first (rs : List Row) :
    Layout.gather (rs.map (.first ·.1)) (rs.map (lineOf ·.2)) = ⟨[], rs.map ofRow⟩ := by
  have htail : ((rs.map (Part.first ·.1)).zip (rs.map (lineOf ·.2))).foldr (fun p t => Layout.Tail.add p.1 p.2 t)
      ⟨[], [], none, []⟩ = ⟨[], [], none, rs.map ofRow⟩ := by
    induction rs with
    | nil => rfl
    | cons r rs ih =>
        rw [List.map_cons, List.map_cons, List.zip_cons_cons, List.foldr_cons, ih]
        rfl
  rw [Layout.gather, htail]
  rfl

theorem whole_lines (cs : List Checklist) : ∀ l ∈ (cs.flatMap Checklist.lines).map lineOf, l.Whole := by
  rw [List.forall_mem_map]
  intro l hl
  obtain ⟨c, -, hc⟩ := List.mem_flatMap.1 hl
  rcases List.mem_cons.1 hc with rfl | hc
  · exact whole_heading c
  · obtain ⟨i, -, rfl⟩ := List.mem_map.1 hc
    exact whole_item i

theorem layout_checklists (cs : List Checklist) :
    Layout.ofText (Checklist.text cs) = ⟨[], (cs.flatMap rows).map ofRow⟩ := by
  have hlines : Markup.lines (Checklist.text cs) = (cs.flatMap Checklist.lines).map lineOf := by
    have htext : Checklist.text cs = ((cs.flatMap Checklist.lines).map lineOf).flatMap Line.source := by
      rw [List.flatMap_map]
      rfl
    rw [htext, lines_flatMap_source (whole_lines cs)]
  rw [Layout.ofText, hlines, show Outline.empty = .behind false from rfl, Outline.parts_checklists, ← map_snd_rows,
    List.map_map]
  exact gather_first _

open Markdown (AreItems AreChecklists OfLine)

variable {text : List Char}

def rowText (rs : List Row) : List Char := rs.flatMap (·.2 ++ ['\n'])

theorem siblings_cons {before : List Char} {r : Row} {rs : List Row} (h : before ++ rowText (r :: rs) = text) :
    ∃ span : Span text, OfLine r.2 span ∧ (before ++ (r.2 ++ ['\n'])) ++ rowText rs = text ∧
      siblings text before.length ((r :: rs).map ofRow) =
        (siblings text (before ++ (r.2 ++ ['\n'])).length (rs.map ofRow)).add r.1 span := by
  rw [rowText, List.flatMap_cons] at h
  refine ⟨.between text before.length (before.length + (r.2 ++ ['\n']).length), .inr (Span.chars_between h), ?_, ?_⟩
  · rw [List.append_assoc]
    exact h
  · have hlength : length [lineOf r.2] = (r.2 ++ ['\n']).length := by
      rw [length, List.flatMap_singleton]
      rfl
    have hstart : (before ++ (r.2 ++ ['\n'])).length = before.length + (r.2 ++ ['\n']).length := List.length_append
    rw [List.map_cons, siblings, hstart]
    simp only [ofRow, hlength]
    rfl

theorem items_itemRows {rs : List Row} (hnone : ∀ before, before ++ rowText rs = text →
      (siblings text before.length (rs.map ofRow)).items = .none) (is : List CheckItem) {before : List Char}
    (h : before ++ rowText (itemRows true is ++ rs) = text) :
    AreItems (siblings text before.length ((itemRows true is ++ rs).map ofRow)).items is ∧
      ∃ behind, behind ++ rowText rs = text ∧
        (siblings text before.length ((itemRows true is ++ rs).map ofRow)).blocks =
          (siblings text behind.length (rs.map ofRow)).blocks := by
  induction is generalizing before with
  | nil =>
      refine ⟨?_, before, h, rfl⟩
      rw [itemRows, List.nil_append, hnone before h]
      exact .none
  | cons i is ih =>
      rw [itemRows, List.cons_append] at h ⊢
      obtain ⟨span, hline, hrest, hsiblings⟩ := siblings_cons h
      obtain ⟨hitems, behind, hbehind, hblocks⟩ := ih hrest
      rw [hsiblings]
      exact ⟨.item hline hitems, behind, hbehind, hblocks⟩

theorem blocks_rows (cs : List Checklist) {before : List Char} (h : before ++ rowText (cs.flatMap rows) = text) :
    (siblings text before.length ((cs.flatMap rows).map ofRow)).items = .none ∧
      AreChecklists (siblings text before.length ((cs.flatMap rows).map ofRow)).blocks cs := by
  induction cs generalizing before with
  | nil => exact ⟨rfl, .none⟩
  | cons c cs ih =>
      rw [List.flatMap_cons, rows, List.cons_append] at h ⊢
      obtain ⟨span, hline, hrest, hsiblings⟩ := siblings_cons h
      have hlevel : level c.level.depth.toNat = c.level := by cases c.level <;> rfl
      rw [hsiblings, Siblings.add, hlevel]
      refine ⟨rfl, ?_⟩
      cases hitems : c.items with
      | nil =>
          rw [hitems] at hrest
          exact .bare hitems hline (ih hrest).2
      | cons i is =>
          rw [hitems, itemRows, List.cons_append] at hrest
          obtain ⟨span', hline', hrest', hsiblings'⟩ := siblings_cons hrest
          obtain ⟨his, behind, hbehind, hblocks⟩ := items_itemRows (fun _ hbefore => (ih hbefore).1) is hrest'
          have hlist : AreItems (.block .item span' .none _) (i :: is) := .item hline' his
          rw [← hitems] at hlist
          rw [itemRows, List.cons_append, hsiblings', Bool.not_false, Siblings.add]
          dsimp only
          rw [hblocks]
          exact .list (by rw [hitems]; exact List.cons_ne_nil _ _) hline hlist (ih hbehind).2

theorem readsChecklists (cs : List Checklist) : Markdown.ReadsChecklists cs := by
  have htext : [] ++ rowText (cs.flatMap rows) = Checklist.text cs := by
    rw [List.nil_append, Checklist.text, ← map_snd_rows, List.flatMap_map]
    rfl
  refine ⟨blocks _, rfl, ?_⟩
  rw [blocks, layout_checklists]
  exact (blocks_rows cs htext).2

end FlagSheet.Markup
