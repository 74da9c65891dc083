import FlagSheet.Markdown.Blocks
import FlagSheet.Node

namespace FlagSheet

open Markdown

variable {text : List Char}

namespace Markdown.Blocks

def items : Blocks text → List Node
  | none => []
  | atom _ _ rest => rest.items
  | block tag span _ rest => if tag = .item then .item span.raw :: rest.items else rest.items

end Markdown.Blocks

namespace Node

def ofBlock (tag : Tag) (raw : String) (items : List Node) : Node :=
  match tag with
  | .heading level => .heading level.depth raw
  | .list => .list items
  | .paragraph => .paragraph raw
  | _ => .other raw

def ofAtom? (a : Atom) (raw : String) : Option Node := if a = .other then none else some (.other raw)

def ofBlocks : Blocks text → List Node
  | .none => []
  | .atom a span rest => (ofAtom? a span.raw).toList ++ ofBlocks rest
  | .block tag span inside rest => ofBlock tag span.raw inside.items :: ofBlocks rest

namespace Scan

theorem run_append (s : Scan) (es es' : List (Event × Span text)) : s.run (es ++ es') = (s.run es).run es' :=
  List.foldl_append

theorem run_block (s : Scan) (tag : Tag) (span : Span text) (inside rest : Blocks text) :
    s.run (Blocks.block tag span inside rest).events = (((s.start tag span.raw).run inside.events).stop).run rest.events := by
  change (s.start tag span.raw).run (inside.events ++ (.stop, span) :: rest.events) = _
  rw [run_append]
  rfl

/-- What is inside of an item, or of a block that is no list, leaves nothing. -/
theorem run_deep (nodes : List Node) (openList : Option (List Node)) (n : Nat) (b : Blocks text) :
    (⟨nodes, openList, n + 2⟩ : Scan).run b.events = ⟨nodes, openList, n + 2⟩ := by
  induction b generalizing n with
  | none => rfl
  | atom a span rest ih =>
      have hstep : (⟨nodes, openList, n + 2⟩ : Scan).step (.atom a) span.raw = ⟨nodes, openList, n + 2⟩ := by
        cases a <;> rfl
      change ((⟨nodes, openList, n + 2⟩ : Scan).step (.atom a) span.raw).run rest.events = _
      rw [hstep, ih]
  | block tag span inside rest ihinside ihrest =>
      have hstart : (⟨nodes, openList, n + 2⟩ : Scan).start tag span.raw = ⟨nodes, openList, n + 3⟩ := rfl
      have hstop : (⟨nodes, openList, n + 3⟩ : Scan).stop = ⟨nodes, openList, n + 2⟩ := rfl
      rw [run_block, hstart, ihinside, hstop, ihrest]

/-- What is directly inside of a list leaves its items. Another block at the top has none that are open. -/
theorem run_within (nodes : List Node) (openList : Option (List Node)) (b : Blocks text) :
    (⟨nodes, openList, 1⟩ : Scan).run b.events = ⟨nodes, openList.map (· ++ b.items), 1⟩ := by
  induction b generalizing openList with
  | none =>
      have hitems : openList.map (· ++ ([] : List Node)) = openList := by simp
      rw [Blocks.items, hitems]
      rfl
  | atom a span rest ih =>
      have hstep : (⟨nodes, openList, 1⟩ : Scan).step (.atom a) span.raw = ⟨nodes, openList, 1⟩ := by cases a <;> rfl
      change ((⟨nodes, openList, 1⟩ : Scan).step (.atom a) span.raw).run rest.events = _
      rw [hstep, ih, Blocks.items]
  | block tag span inside rest _ ihrest =>
      have hstop (openList : Option (List Node)) : (⟨nodes, openList, 2⟩ : Scan).stop = ⟨nodes, openList, 1⟩ := rfl
      rw [run_block, start]
      dsimp only
      rw [if_neg Nat.one_ne_zero]
      -- an item is noted when it begins, so what it contains runs two levels deep and leaves nothing
      by_cases htag : tag = .item
      · simp [htag, run_deep, hstop, ihrest, Blocks.items, Function.comp_def]
      · simp [htag, run_deep, hstop, ihrest, Blocks.items]

theorem run_top (nodes : List Node) (b : Blocks text) :
    (⟨nodes, none, 0⟩ : Scan).run b.events = ⟨nodes ++ ofBlocks b, none, 0⟩ := by
  induction b generalizing nodes with
  | none => simp [run, Blocks.events, ofBlocks]
  | atom a span rest ih =>
      have hstep : (⟨nodes, none, 0⟩ : Scan).step (.atom a) span.raw = ⟨nodes ++ (ofAtom? a span.raw).toList, none, 0⟩ := by
        cases a with
        | rule | html => rfl
        | other => simp [step, ofAtom?]
      change ((⟨nodes, none, 0⟩ : Scan).step (.atom a) span.raw).run rest.events = _
      rw [hstep, ih, ofBlocks, List.append_assoc]
  | block tag span inside rest _ ihrest =>
      have hblock : (((⟨nodes, none, 0⟩ : Scan).start tag span.raw).run inside.events).stop =
          ⟨nodes ++ [ofBlock tag span.raw inside.items], none, 0⟩ := by
        cases tag with
        | list =>
            change ((⟨nodes, some [], 1⟩ : Scan).run inside.events).stop = _
            rw [run_within]
            rfl
        | heading | item | paragraph | other =>
            change ((⟨nodes ++ [_], none, 1⟩ : Scan).run inside.events).stop = _
            rw [run_within]
            rfl
      rw [run_block, hblock, ihrest, ofBlocks, List.append_assoc, List.singleton_append]

end Scan

/-- Counting how many tags are open comes to the same as going through the blocks themselves: each block at
the top is a node, and a list at the top holds the items that are directly inside of it, however deep its
items go on. -/
theorem tokenize_events (b : Blocks text) : tokenize b.events = ofBlocks b := by
  have hrun := Scan.run_top [] b
  rw [List.nil_append] at hrun
  exact congrArg Scan.nodes hrun

end Node

end FlagSheet
