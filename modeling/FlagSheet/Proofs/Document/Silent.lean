import FlagSheet.Proofs.Document.Step

namespace FlagSheet

open Draft (isConditionsHeading)

/-- No rule of a document is about the node. -/
inductive Node.Silent (n : Node) : Prop
  | paragraph (hkind : n.kind = .paragraph)
  | other (hkind : n.kind = .other)
  | item (hkind : n.kind = .listItem)
  | heading (hkind : n.kind = .heading) (hdepth : n.depth ≠ 2 ∧ n.depth ≠ 3 ∧ n.depth ≠ 4)
  | note (hkind : n.kind = .heading) (hdepth : n.depth = 4)
      (htext : Text.sameAscii n.headingText.toList "conditions".toList = false)

theorem Node.Silent.kind_ne {n : Node} (h : n.Silent) : n.kind ≠ .list := by
  cases h with
  | paragraph hkind | other hkind | item hkind | heading hkind | note hkind => rw [hkind]; decide

theorem Node.Silent.isHeading {n : Node} (h : n.Silent) : n.isHeading 2 = false ∧ n.isHeading 3 = false := by
  cases h with
  | paragraph hkind | other hkind | item hkind => simp [Node.isHeading, hkind]
  | heading hkind hdepth => simp [Node.isHeading, hdepth]
  | note hkind hdepth => simp [Node.isHeading, hdepth]

theorem Node.Silent.isConditionsHeading {n : Node} (h : n.Silent) : isConditionsHeading n = false := by
  cases h with
  | paragraph hkind | other hkind | item hkind => simp [Draft.isConditionsHeading, Node.isHeading, hkind]
  | heading hkind hdepth => simp [Draft.isConditionsHeading, Node.isHeading, hdepth]
  | note hkind hdepth htext => rw [Draft.isConditionsHeading, htext, Bool.and_false]

namespace Draft

variable {d : Draft} {n : Node}

theorem step_of_silent (hn : n.Silent) (d : Draft) : d.step n = { d with inConditions := false } := by
  obtain ⟨hfeature, henvironment⟩ := hn.isHeading
  by_cases hscope : d.scope = .outside
  · exact step_of_outside hfeature (fun _ => hn.kind_ne) hscope
  · rw [step_of_within hfeature (fun _ => hn.kind_ne) hscope, stepWithin_of_other henvironment hn.kind_ne,
      hn.isConditionsHeading]
    rfl

theorem step_closed (h : d.inConditions = true → n.kind ≠ .list) :
    ({ d with inConditions := false } : Draft).step n = d.step n := by
  rw [step, step]
  split
  · rfl
  · rw [Bool.false_and, if_neg Bool.false_ne_true, if_neg (by simpa using h)]

end Draft

/-- A node that no rule is about can be left out, unless it stands between a block of conditions and a list. -/
theorem FeatureSet.ofNodes_silent {xs ys : List Node} {n : Node} (hn : n.Silent)
    (h : (xs.foldl Draft.step .empty).inConditions = false ∨ ∀ m ∈ ys.head?, m.kind ≠ .list) :
    ofNodes (xs ++ [n] ++ ys) = ofNodes (xs ++ ys) := by
  rw [ofNodes, ofNodes, List.append_assoc, List.singleton_append, List.foldl_append, List.foldl_append, List.foldl_cons,
    Draft.step_of_silent hn]
  cases ys with
  | nil => rfl
  | cons m ys =>
      have hm : (xs.foldl Draft.step .empty).inConditions = true → m.kind ≠ .list := by
        intro hopen
        rcases h with hclosed | hhead
        · exact absurd (hopen.symm.trans hclosed) Bool.noConfusion
        · exact hhead m rfl
      rw [List.foldl_cons, List.foldl_cons, Draft.step_closed hm]

/-- The heading ends the block of conditions, which the heading of an environment would have ended as well. -/
theorem FeatureSet.ofNodes_silent_note :
    ofNodes ([.heading 2 "## Login", .heading 4 "#### Conditions", .list [.item "- [x] Staff"]] ++
        [.heading 4 "#### Notes"] ++ [.heading 3 "### Production", .list [.item "- [x] Enabled"]]) =
      ofNodes ([.heading 2 "## Login", .heading 4 "#### Conditions", .list [.item "- [x] Staff"]] ++
        [.heading 3 "### Production", .list [.item "- [x] Enabled"]]) :=
  ofNodes_silent (.note rfl rfl (by decide +kernel)) (.inr (by decide))

/-- Between a block of conditions and a list the node decides what the list says. -/
example :
    (FeatureSet.ofNodes [.heading 2 "## Login", .heading 4 "#### Conditions", .paragraph "Notes",
        .list [.item "- [x] Staff"]] ≠
      FeatureSet.ofNodes [.heading 2 "## Login", .heading 4 "#### Conditions", .list [.item "- [x] Staff"]]) := by
  decide +kernel

end FlagSheet
