import FlagSheet.Proofs.Document.Step
import Mathlib.Data.List.Induction

namespace FlagSheet

namespace Block

open Draft (isConditionsHeading checklistState? conditionOf?)

/-- Nothing but lists stands behind the last heading `Conditions`. -/
def BehindConditions (before : List Node) : Prop :=
  ∃ front h lists, before = front ++ h :: lists ∧ isConditionsHeading h = true ∧ ∀ n ∈ lists, n.kind = .list

theorem behindConditions_snoc {before : List Node} {n : Node} :
    BehindConditions (before ++ [n]) ↔ isConditionsHeading n = true ∨ n.kind = .list ∧ BehindConditions before := by
  constructor
  · rintro ⟨front, h, lists, hsplit, hh, hlists⟩
    rcases List.eq_nil_or_concat lists with rfl | ⟨lists, last, rfl⟩
    · obtain ⟨-, hn⟩ := List.append_inj' hsplit rfl
      exact .inl ((List.cons.inj hn).1 ▸ hh)
    · rw [List.concat_eq_append] at hsplit hlists
      rw [← List.cons_append, ← List.append_assoc] at hsplit
      obtain ⟨hbefore, hn⟩ := List.append_inj' hsplit rfl
      obtain rfl := (List.cons.inj hn).1
      refine .inr ⟨hlists _ (by simp), front, h, lists, hbefore, hh, ?_⟩
      exact fun m hm => hlists m (List.mem_append_left _ hm)
  · rintro (hn | ⟨hn, front, h, lists, rfl, hh, hlists⟩)
    · exact ⟨before, n, [], rfl, hn, by simp⟩
    · refine ⟨front, h, lists ++ [n], by simp, hh, ?_⟩
      intro m hm
      rcases List.mem_append.1 hm with hm | hm
      · exact hlists m hm
      · rw [List.mem_singleton.1 hm]
        exact hn

theorem not_behindConditions_nil : ¬BehindConditions [] := by
  rintro ⟨front, h, lists, hsplit, -⟩
  simp at hsplit

theorem foldl_behindConditions (before : List Node) :
    before.foldl (fun behind n => isConditionsHeading n || (decide (n.kind = .list) && behind)) false = true ↔
      BehindConditions before := by
  induction before using List.reverseRecOn with
  | nil => simp [not_behindConditions_nil]
  | append_singleton before n ih =>
      rw [List.foldl_append, List.foldl_cons, List.foldl_nil, Bool.or_eq_true, Bool.and_eq_true, ih,
        decide_eq_true_eq, behindConditions_snoc]

instance : DecidablePred BehindConditions := fun before => decidable_of_iff _ (foldl_behindConditions before)

def placed (before : List Node) : List Node → List (List Node × Node)
  | [] => []
  | n :: ns => (before, n) :: placed (before ++ [n]) ns

theorem placed_snoc (before ns : List Node) (n : Node) :
    placed before (ns ++ [n]) = placed before ns ++ [(before ++ ns, n)] := by
  induction ns generalizing before with
  | nil => simp [placed]
  | cons m ns ih => simp [placed, ih]

def listsAt (place : List Node → Prop) [DecidablePred place] (block : List Node) : List Node :=
  ((placed [] block).filter fun p => p.2.kind = .list ∧ place p.1).map (·.2)

theorem listsAt_snoc (place : List Node → Prop) [DecidablePred place] (block : List Node) (n : Node) :
    listsAt place (block ++ [n]) = listsAt place block ++ if n.kind = .list ∧ place block then [n] else [] := by
  rw [listsAt, placed_snoc, List.nil_append, List.filter_append, List.map_append, listsAt]
  by_cases h : n.kind = .list ∧ place block <;> simp [h]

def conditionLists (block : List Node) : List Node := listsAt BehindConditions block

def stateLists (block : List Node) : List Node := listsAt (¬BehindConditions ·) block

def told (block : List Node) : List Condition := (conditionLists block).flatMap (·.children.filterMap conditionOf?)

/-- The conditions of a block. Of those with the same slug, the last one counts. -/
def conditions (block : List Node) : SlugMap Condition := .ofList ((told block).map fun c => (c.slug, c))

/-- The state of the first marked item of the first list, other than of conditions, that has one. -/
def state? (block : List Node) : Option Bool := (stateLists block).findSome? (checklistState? ·.children)

theorem told_snoc (block : List Node) (n : Node) :
    told (block ++ [n]) =
      told block ++ if n.kind = .list ∧ BehindConditions block then n.children.filterMap conditionOf? else [] := by
  rw [told, conditionLists, listsAt_snoc, List.flatMap_append, told, conditionLists]
  split <;> simp

theorem state?_snoc (block : List Node) (n : Node) :
    state? (block ++ [n]) =
      (state? block).or
        (if n.kind = .list ∧ ¬BehindConditions block then checklistState? n.children else none) := by
  rw [state?, stateLists, listsAt_snoc, List.findSome?_append, state?, stateLists]
  split <;> simp

end Block

end FlagSheet
