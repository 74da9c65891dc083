import FlagSheet.Proofs.Markup.Reader
import FlagSheet.Proofs.Node.Blocks
import FlagSheet.Proofs.Text.Trim

namespace FlagSheet

open Text Markdown

/-- Pieces of a text in their order, which share nothing of it. What stands between them is left open. -/
inductive Text.Apart : List (List Char) → List Char → Prop
  | nil (rest : List Char) : Apart [] rest
  | cons (before piece : List Char) {pieces : List (List Char)} {rest : List Char} (h : Apart pieces rest) :
      Apart (piece :: pieces) (before ++ (piece ++ rest))

theorem Text.Apart.behind {pieces : List (List Char)} {text : List Char} (h : Apart pieces text) (before : List Char) :
    Apart pieces (before ++ text) := by
  cases h with
  | nil => exact .nil _
  | cons before' piece h =>
      rw [← List.append_assoc]
      exact .cons _ piece h

namespace Markdown

variable {text : List Char} {pieces : List (List Char)} {start stop : Nat}

theorem apart_drop (h : Apart pieces (text.drop stop)) (hle : start ≤ stop) : Apart pieces (text.drop start) := by
  have hsplit : text.drop start = (text.drop start).take (stop - start) ++ text.drop stop := by
    conv_lhs => rw [← List.take_append_drop (stop - start) (text.drop start)]
    rw [List.drop_drop, Nat.add_sub_cancel' hle]
  rw [hsplit]
  exact h.behind _

theorem apart_chars {span : Span text} (h : Apart pieces (text.drop span.stop)) (hle : start ≤ span.start) :
    Apart (span.chars :: pieces) (text.drop start) := by
  have hsplit : text.drop span.start = span.chars ++ text.drop span.stop := by
    conv_lhs => rw [← List.take_append_drop (span.stop - span.start) (text.drop span.start)]
    rw [List.drop_drop, Nat.add_sub_cancel' span.ordered]
    rfl
  refine apart_drop ?_ hle
  rw [hsplit]
  exact .cons [] _ h

namespace Blocks

def itemSpans : Blocks text → List (Span text)
  | none => []
  | atom _ _ rest => rest.itemSpans
  | block tag span _ rest => if tag = .item then span :: rest.itemSpans else rest.itemSpans

/-- The ranges of the blocks at the top, where a list has those of its items. -/
def spans : Blocks text → List (Span text)
  | none => []
  | atom a span rest => if a = .other then rest.spans else span :: rest.spans
  | block tag span inside rest => (if tag = .list then inside.itemSpans else [span]) ++ rest.spans

theorem Within.apart_itemSpans {b : Blocks text} (h : b.Within start stop) (hpieces : Apart pieces (text.drop stop)) :
    Apart (b.itemSpans.map Span.chars ++ pieces) (text.drop start) := by
  induction b generalizing start with
  | none => exact apart_drop hpieces h
  | atom a span rest ih => exact apart_drop (ih h.2) (h.1.trans span.ordered)
  | block tag span inside rest _ ih =>
      obtain ⟨hstart, -, hrest⟩ := h
      rw [itemSpans]
      split
      · exact apart_chars (ih hrest) hstart
      · exact apart_drop (ih hrest) (hstart.trans span.ordered)

theorem Within.apart_spans {b : Blocks text} (h : b.Within start stop) :
    Apart (b.spans.map Span.chars) (text.drop start) := by
  induction b generalizing start with
  | none => exact .nil _
  | atom a span rest ih =>
      rw [spans]
      split
      · exact apart_drop (ih h.2) (h.1.trans span.ordered)
      · exact apart_chars (ih h.2) h.1
  | block tag span inside rest _ ih =>
      obtain ⟨hstart, hinside, hrest⟩ := h
      rw [spans, List.map_append]
      split
      · exact apart_drop (hinside.apart_itemSpans (ih hrest)) hstart
      · exact apart_chars (ih hrest) hstart

end Blocks

end Markdown

namespace Node

variable {text : List Char}

structure IsItem (n : Node) : Prop where
  kind : n.kind = .listItem
  depth : n.depth = 0
  children : n.children = []

structure Formed (n : Node) : Prop where
  heading : n.kind = .heading → 1 ≤ n.depth ∧ n.depth ≤ 6
  depth : n.kind ≠ .heading → n.depth = 0
  children : n.kind ≠ .list → n.children = []
  list : n.kind = .list →
    n.children ≠ [] ∧ n.raw = "\n".intercalate (n.children.map raw) ∧ ∀ child ∈ n.children, child.IsItem

/-- What a node holds of its text. A list holds it item by item. -/
def texts (n : Node) : List String :=
  match n.kind with
  | .list => n.children.map raw
  | _ => [n.raw]

theorem formed_heading (level : HeadingLevel) (raw : String) : (heading level.depth raw).Formed := by
  refine ⟨fun _ => ?_, fun hkind => absurd rfl hkind, fun _ => rfl, nofun⟩
  change 1 ≤ level.depth ∧ level.depth ≤ 6
  cases level <;> decide

theorem formed_leaf (kind : NodeKind) (hheading : kind ≠ .heading) (hlist : kind ≠ .list) (raw : String) :
    (leaf kind 0 raw).Formed :=
  ⟨(absurd · hheading), fun _ => rfl, fun _ => rfl, (absurd · hlist)⟩

theorem formed_list {items : List Node} (hne : items ≠ []) (hitems : ∀ item ∈ items, item.IsItem) : (list items).Formed :=
  ⟨nofun, fun _ => rfl, fun hkind => absurd rfl hkind, fun _ => ⟨hne, rfl, hitems⟩⟩

theorem isItem_of_mem_items {b : Blocks text} : ∀ item ∈ b.items, item.IsItem := by
  induction b with
  | none => exact nofun
  | atom _ _ _ ih => exact ih
  | block tag span _ _ _ ih =>
      rw [Blocks.items]
      split
      · exact List.forall_mem_cons.2 ⟨⟨rfl, rfl, rfl⟩, ih⟩
      · exact ih

theorem items_ne_nil {b : Blocks text} (h : b.HasItem) : b.items ≠ [] := by
  induction b with
  | none => exact absurd h id
  | atom _ _ _ ih => exact ih h
  | block tag _ _ _ _ ih =>
      rw [Blocks.items]
      split
      · exact List.cons_ne_nil _ _
      · next htag => exact ih (h.resolve_left htag)

theorem formed_ofBlock {tag : Tag} (raw : String) {inside : Blocks text} (h : tag = .list → inside.HasItem) :
    (ofBlock tag raw inside.items).Formed := by
  cases tag with
  | heading level => exact formed_heading level raw
  | list => exact formed_list (items_ne_nil (h rfl)) isItem_of_mem_items
  | paragraph => exact formed_leaf .paragraph nofun nofun raw
  | item | other => exact formed_leaf .other nofun nofun raw

theorem formed_ofBlocks {b : Blocks text} (h : b.Listed) : ∀ n ∈ ofBlocks b, n.Formed := by
  induction b with
  | none => exact List.forall_mem_nil _
  | atom a span rest ih =>
      rw [ofBlocks, List.forall_mem_append]
      refine ⟨?_, ih h⟩
      cases a with
      | rule | html =>
          exact List.forall_mem_singleton.2 (formed_leaf .other NodeKind.noConfusion NodeKind.noConfusion _)
      | other => exact List.forall_mem_nil _
  | block tag span inside rest _ ih =>
      obtain ⟨hlist, -, hrest⟩ := h
      exact List.forall_mem_cons.2 ⟨formed_ofBlock _ hlist, ih hrest⟩

theorem trimmed_raw (span : Span text) : trimmed span.raw = String.ofList (trim span.chars) := by
  rw [trimmed, Span.raw, String.toList_ofList]

theorem map_raw_items (b : Blocks text) :
    b.items.map raw = b.itemSpans.map fun span => String.ofList (trim span.chars) := by
  induction b with
  | none => rfl
  | atom _ _ _ ih => exact ih
  | block tag span _ _ _ ih =>
      rw [Blocks.items, Blocks.itemSpans]
      split
      · rw [List.map_cons, List.map_cons, ih, ← trimmed_raw]
        rfl
      · exact ih

theorem texts_ofBlock (tag : Tag) (span : Span text) (inside : Blocks text) :
    (ofBlock tag span.raw inside.items).texts =
      (if tag = .list then inside.itemSpans else [span]).map fun span => String.ofList (trim span.chars) := by
  cases tag with
  | list => exact map_raw_items inside
  | heading | item | paragraph | other => exact congrArg (fun s => [s]) (trimmed_raw span)

theorem flatMap_texts (b : Blocks text) :
    (ofBlocks b).flatMap texts = b.spans.map fun span => String.ofList (trim span.chars) := by
  induction b with
  | none => rfl
  | atom a span rest ih =>
      rw [ofBlocks, ofAtom?, Blocks.spans]
      split
      · exact ih
      · rw [List.map_cons, ← ih, ← trimmed_raw]
        rfl
  | block tag span inside rest _ ih =>
      rw [ofBlocks, List.flatMap_cons, texts_ofBlock, ih, Blocks.spans, List.map_append]

/-- The nodes of a text are well formed, and hold pieces of it, each trimmed, which stand in it one behind the other. -/
theorem ofText_faithful [Markdown] {text : String} (h : WellNested text.toList) :
    (∀ n ∈ ofText text, n.Formed) ∧
      ∃ pieces, Apart pieces text.toList ∧
        (ofText text).flatMap texts = pieces.map fun piece => String.ofList (trim piece) := by
  obtain ⟨b, hevents, hwithin, hlisted⟩ := h
  rw [ofText, hevents, tokenize_events]
  refine ⟨formed_ofBlocks hlisted, b.spans.map Span.chars, hwithin.apart_spans, ?_⟩
  rw [flatMap_texts, List.map_map]
  rfl

theorem ofText_faithful_quoted :
    let text := "Login\n===\n- on\n  > - old\n- [x] new\n"
    WellNested text.toList ∧ (∀ n ∈ ofText text, n.Formed) ∧
      ∃ pieces, Apart pieces text.toList ∧
        (pieces.map fun piece => String.ofList (trim piece)) = ["Login\n===", "- on\n  > - old", "- [x] new"] := by
  intro text
  have hnested : WellNested text.toList := Markup.wellNested _
  obtain ⟨hformed, pieces, hapart, htexts⟩ := ofText_faithful hnested
  refine ⟨hnested, hformed, pieces, hapart, ?_⟩
  rw [← htexts]
  decide +kernel

end Node

end FlagSheet
