import FlagSheet.Proofs.Document.Step
import FlagSheet.Proofs.Markup.LineEnd
import FlagSheet.Proofs.Node.Blocks
import Mathlib

namespace FlagSheet

open Text
open Draft (isConditionsHeading checklistState? conditionOf?)

structure Node.SameItems (items items' : List Node) : Prop where
  conditions : items'.filterMap conditionOf? = items.filterMap conditionOf?
  state : checklistState? items' = checklistState? items

/-- Nodes that differ in nothing that a document reads. -/
structure Node.Alike (n n' : Node) : Prop where
  kind : n'.kind = n.kind
  depth : n'.depth = n.depth
  headingText : n.kind = .heading → n'.headingText = n.headingText
  children : SameItems n.children n'.children

namespace Node

variable {n n' : Node}

theorem Alike.isHeading (h : n.Alike n') (depth : UInt8) : n'.isHeading depth = n.isHeading depth := by
  rw [Node.isHeading, Node.isHeading, h.kind, h.depth]

theorem kind_of_isHeading {depth : UInt8} (h : n.isHeading depth = true) : n.kind = .heading := by
  simp only [isHeading, Bool.and_eq_true, decide_eq_true_eq] at h
  exact h.1

theorem Alike.isConditionsHeading (h : n.Alike n') : isConditionsHeading n' = isConditionsHeading n := by
  rw [Draft.isConditionsHeading, Draft.isConditionsHeading, h.isHeading]
  cases hn : n.isHeading 4 with
  | false => rw [Bool.false_and, Bool.false_and]
  | true => rw [h.headingText (kind_of_isHeading hn)]

theorem Alike.stepWithin (h : n.Alike n') (d : Draft) : d.stepWithin n' = d.stepWithin n := by
  have hlist : d.applyChecklist n'.children = d.applyChecklist n.children := by
    rw [Draft.applyChecklist, Draft.applyChecklist, h.children.state]
  rw [Draft.stepWithin, Draft.stepWithin, h.isHeading, h.isConditionsHeading, h.kind, hlist]
  split
  · next hn => rw [h.headingText (kind_of_isHeading hn)]
  · rfl

theorem Alike.step (h : n.Alike n') (d : Draft) : d.step n' = d.step n := by
  have hlist : d.addConditions n'.children = d.addConditions n.children := by
    rw [Draft.addConditions, Draft.addConditions, h.children.conditions]
  rw [Draft.step, Draft.step, h.isHeading, h.kind, hlist]
  split
  · next hn => rw [h.headingText (kind_of_isHeading hn)]
  · split
    · rfl
    · dsimp only
      split
      · rfl
      · exact h.stepWithin _

theorem foldl_alike {ns ns' : List Node} (h : List.Forall₂ Alike ns ns') (d : Draft) :
    ns'.foldl Draft.step d = ns.foldl Draft.step d := by
  induction h generalizing d with
  | nil => rfl
  | cons hn _ ih => rw [List.foldl_cons, List.foldl_cons, hn.step, ih]

theorem returned_trimmed {raw raw' : String} (h : Returned raw.toList raw'.toList) :
    Returned (trimmed raw).toList (trimmed raw').toList := by
  rw [trimmed, trimmed, String.toList_ofList, String.toList_ofList]
  exact h.trim

theorem returned_raw {text text' : List Char} {span : Span text} {span' : Span text'}
    (h : Returned span.chars span'.chars) : Returned span.raw.toList span'.raw.toList := by
  rw [Span.raw, Span.raw, String.toList_ofList, String.toList_ofList]
  exact h

theorem alike_leaf (kind : NodeKind) (depth : UInt8) {raw raw' : String} (h : Returned raw.toList raw'.toList) :
    (leaf kind depth raw).Alike (leaf kind depth raw') := by
  refine ⟨rfl, rfl, fun _ => ?_, rfl, rfl⟩
  have hline := (returned_trimmed h).firstLine.trim_eq (not_mem_firstLine _)
  rw [headingText, headingText, headingChars, headingChars]
  dsimp only [leaf]
  rw [hline]

theorem SameItems.cons {items items' : List Node} (h : SameItems items items') {raw raw' : String}
    (hraw : Returned raw.toList raw'.toList) : SameItems (item raw :: items) (item raw' :: items') := by
  have htold : conditionOf? (item raw') = conditionOf? (item raw) := by
    have h := congrArg (Option.map fun p : Bool × List Char => Condition.named (String.ofList p.2) p.1)
      (returned_trimmed hraw).told
    rw [Option.map_map, Option.map_map] at h
    exact h.symm
  have hstate : Checkbox.state (item raw').raw = Checkbox.state (item raw).raw := (returned_trimmed hraw).state.symm
  constructor
  · rw [List.filterMap_cons, List.filterMap_cons, htold, h.conditions]
  · rw [checklistState?, checklistState?, List.findSome?_cons, List.findSome?_cons, hstate]
    split
    · rfl
    · exact h.state

theorem alike_list {items items' : List Node} (h : SameItems items items') : (list items).Alike (list items') :=
  ⟨rfl, rfl, NodeKind.noConfusion, h⟩

end Node

section Same

open Markdown

variable {text text' : List Char} {b : Blocks text} {b' : Blocks text'} {atTop : Bool}

theorem Markdown.Blocks.Same.items (h : b.Same atTop b') : Node.SameItems b.items b'.items := by
  induction h with
  | none => exact ⟨rfl, rfl⟩
  | atom _ _ ih | more _ _ ih | fewer _ _ ih => exact ih
  | @block _ tag _ _ _ _ _ _ hchars _ _ _ ih =>
      rw [Blocks.items, Blocks.items]
      split
      · next htag => exact ih.cons (Node.returned_raw (hchars (by simp [htag])))
      · exact ih

theorem Node.alike_ofBlock {tag : Tag} {span : Span text} {span' : Span text'} {items items' : List Node}
    (hchars : tag ≠ .list → Returned span.chars span'.chars) (hitems : SameItems items items') :
    (ofBlock tag span.raw items).Alike (ofBlock tag span'.raw items') := by
  cases tag with
  | list => exact alike_list hitems
  | heading | item | paragraph | other => exact alike_leaf _ _ (returned_raw (hchars nofun))

theorem Markdown.Blocks.Same.nodes (h : b.Same true b') : List.Forall₂ Node.Alike (Node.ofBlocks b) (Node.ofBlocks b') := by
  generalize htop : true = atTop at h
  induction h with
  | none => exact .nil
  | @atom _ a _ _ _ _ hchars _ ih =>
      cases a with
      | rule | html => exact .cons (Node.alike_leaf _ _ (Node.returned_raw hchars)) (ih htop)
      | other => exact ih htop
  | more hatom _ ih | fewer hatom _ ih =>
      obtain rfl := hatom htop.symm
      exact ih htop
  | block hchars hinside _ _ ih => exact .cons (Node.alike_ofBlock hchars hinside.items) (ih htop)

end Same

namespace FeatureSet

/-- Where the parser takes a carriage return and a line feed as one line ending, a text describes the same features however
its lines end. -/
theorem ofText_crlf [Markdown] {text : String} (h : Markdown.ReadsCrlf text.toList) :
    ofText (String.ofList (crlf text.toList)) = ofText text := by
  obtain ⟨b, b', hevents, hevents', hsame⟩ := h
  rw [ofText, ofText, Node.ofText, Node.ofText, String.toList_ofList, hevents, hevents', Node.tokenize_events,
    Node.tokenize_events]
  exact congrArg Draft.features (Node.foldl_alike hsame.nodes .empty)

theorem ofText_crlf_login :
    let text := "## Login\n- [x] Enabled\n\nNot yet\nfor all.\n\n#### Conditions\n- [x] Staff\n"
    Markdown.ReadsCrlf text.toList ∧ ofText (String.ofList (crlf text.toList)) = ofText text := by
  intro text
  have hdefinitions : Markup.SameDefinitions text.toList := by
    unfold text Markup.SameDefinitions
    cbv
  have hreads := Markup.readsCrlf (by decide) hdefinitions
  exact ⟨hreads, ofText_crlf hreads⟩

end FeatureSet

end FlagSheet
