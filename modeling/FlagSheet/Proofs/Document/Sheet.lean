import FlagSheet.Proofs.Checkbox
import FlagSheet.Proofs.Document.Grammar
import FlagSheet.Proofs.Markup.Checklist
import FlagSheet.Proofs.Node.Blocks
import FlagSheet.Proofs.Node.Heading

namespace FlagSheet

open Markdown (AreChecklists AreItems Blocks CheckItem Checklist HeadingLevel OfLine)
open Text (Name)

def Node.ofCheckItem (i : CheckItem) : Node := .item (String.ofList i.chars)

def Node.ofHeading (c : Checklist) : Node := .heading c.level.depth (String.ofList c.heading)

namespace Node

variable (i : CheckItem) (c : Checklist)

def ofChecklist : List Node := ofHeading c :: if c.items.isEmpty then [] else [.list (c.items.map ofCheckItem)]

section Blocks

variable {text : List Char} {b : Blocks text}

theorem leaf_of_line {line : List Char} {span : Span text} (h : OfLine line span) (htight : Text.Tight line)
    (hne : line ≠ []) (kind : NodeKind) (depth : UInt8) :
    leaf kind depth span.raw = leaf kind depth (String.ofList line) := by
  have htrim : Text.trim span.chars = line := by
    rcases h with h | h
    · rw [h, Text.trim_of_tight htight]
    · rw [h, Text.trim_lineFeed htight hne]
  rw [leaf, leaf, Text.trimmed, Text.trimmed, Span.raw, String.toList_ofList, String.toList_ofList, htrim,
    Text.trim_of_tight htight]

theorem items_of_areItems {is : List CheckItem} (h : AreItems b is) : b.items = is.map ofCheckItem := by
  induction h with
  | none => rfl
  | @item i is span inside rest hline _ ih =>
      have hitem : item span.raw = ofCheckItem i := leaf_of_line hline i.tight_chars (List.cons_ne_nil _ _) .listItem 0
      rw [Markdown.Blocks.items, if_pos rfl, ih, hitem]
      rfl

theorem ofBlock_heading {c : Checklist} {span : Span text} (h : OfLine c.heading span) (items : List Node) :
    ofBlock (.heading c.level) span.raw items = ofHeading c := by
  have hne : c.heading ≠ [] := by
    obtain ⟨cs, hcs⟩ := c.exists_heading
    rw [hcs]
    exact List.cons_ne_nil _ _
  exact leaf_of_line h c.tight_heading hne .heading c.level.depth

theorem ofBlocks_checklists {cs : List Checklist} (h : AreChecklists b cs) : ofBlocks b = cs.flatMap ofChecklist := by
  induction h with
  | none => rfl
  | bare hitems hline _ ih =>
      rw [ofBlocks, ofBlock_heading hline, ih, List.flatMap_cons, ofChecklist, hitems]
      rfl
  | @list c _ _ _ _ _ _ hitems hline hlist _ ih =>
      have hnonempty : c.items.isEmpty = false := by simpa using hitems
      have hnode (raw : String) : ofBlock .list raw (c.items.map ofCheckItem) = list (c.items.map ofCheckItem) := rfl
      rw [ofBlocks, ofBlock_heading hline, ofBlocks, items_of_areItems hlist, hnode, ih, List.flatMap_cons, ofChecklist,
        hnonempty, if_neg Bool.false_ne_true]
      rfl

theorem ofText_checklists [Markdown] {cs : List Checklist} (h : Markdown.ReadsChecklists cs) :
    ofText (String.ofList (Checklist.text cs)) = cs.flatMap ofChecklist := by
  obtain ⟨b, hevents, hchecklists⟩ := h
  rw [ofText, String.toList_ofList, hevents, tokenize_events, ofBlocks_checklists hchecklists]

end Blocks

theorem raw_ofCheckItem : (ofCheckItem i).raw.toList = i.chars := by
  rw [ofCheckItem, item, leaf, Text.trimmed, String.toList_ofList, String.toList_ofList, Text.trim_of_tight i.tight_chars]

theorem raw_ofHeading : (ofHeading c).raw.toList = c.heading := by
  rw [ofHeading, heading, leaf, Text.trimmed, String.toList_ofList, String.toList_ofList,
    Text.trim_of_tight c.tight_heading]

theorem split_item : Checkbox.split i.chars = some (i.checked, i.name.chars) := by
  have hmark : Checkbox.Mark i.checked ['[', if i.checked then 'x' else ' ', ']'] := by
    cases i.checked with
    | false => exact .unchecked
    | true => exact .checked
  have hsplit := Checkbox.split_of_mark hmark (show Checkbox.endsWord (' ' :: i.name.chars) = true from rfl)
  rwa [i.name.trimStart_space] at hsplit

theorem isTitle_chars (n : Name) : IsTitle n.chars where
  line := n.not_mem rfl (by decide)
  tight := n.tight
  named := by
    obtain ⟨c, cs, hn, hc⟩ := n.exists_cons
    exact ⟨c, hn ▸ List.mem_cons_self, hc '#' rfl⟩
  unclosed := by
    intro before k hn
    have hmark : '#' ∉ n.chars := n.not_mem rfl (by decide)
    rw [hn] at hmark
    exact hmark (by simp)

theorem headingText_ofHeading : (ofHeading c).headingText = c.title.toString := by
  have hheading : c.heading = headline c.level.depth.toNat 1 c.title.chars [] ++ [] ++ [] := by
    simp [Checklist.heading, HeadingLevel.marks, headline]
  have hmarks : 1 ≤ c.level.depth.toNat := by cases c.level <;> decide
  rw [headingText, raw_ofHeading, hheading, headingChars_headline hmarks le_rfl (isTitle_chars c.title) .none
    ⟨rfl, List.not_mem_nil⟩ (.inl rfl)]
  rfl

end Node

def Condition.ofCheckItem (i : CheckItem) : Condition := .named i.name.toString i.checked

theorem Draft.conditionOf?_ofCheckItem (i : CheckItem) : conditionOf? (.ofCheckItem i) = some (.ofCheckItem i) := by
  have hfirst : Text.firstLine i.chars = i.chars := Text.firstLine_of_not_mem (i.not_mem_chars (.inl rfl))
  rw [conditionOf?, Node.raw_ofCheckItem, hfirst, Node.split_item, Option.map_some]
  dsimp only
  rw [Text.trim_of_tight i.name.tight]
  rfl

theorem Draft.checklistState?_ofCheckItem (i : CheckItem) : checklistState? [.ofCheckItem i] = some i.checked := by
  rw [checklistState?, List.findSome?_cons, Checkbox.state, Node.raw_ofCheckItem, Node.split_item]
  rfl

namespace Sheet

structure Section where
  name : Name
  enabled : Bool
  conditions : List CheckItem

structure Entry extends Section where
  environments : List Section

def enabledName : Name := ⟨"Enabled".toList, by decide, by decide +kernel, by decide +kernel⟩

def conditionsName : Name := ⟨"Conditions".toList, by decide, by decide +kernel, by decide +kernel⟩

namespace Section

variable (s : Section)

def toggle : CheckItem := ⟨enabledName, s.enabled⟩

def conditionList : Checklist := ⟨.h4, conditionsName, s.conditions⟩

def opening (level : HeadingLevel) : Checklist := ⟨level, s.name, [s.toggle]⟩

/-- The section as it is written, with its conditions under a heading of their own. -/
def checklists (level : HeadingLevel) : List Checklist :=
  s.opening level :: if s.conditions.isEmpty then [] else [s.conditionList]

def environment : Environment :=
  (s.conditions.map .ofCheckItem).foldl Environment.withCondition (.named s.name.toString s.enabled)

end Section

namespace Entry

variable (e : Entry)

def checklists : List Checklist :=
  e.toSection.checklists .h2 ++ e.environments.flatMap (·.checklists .h3)

def feature : Feature :=
  (e.environments.map Section.environment).foldl Feature.withEnvironment
    ((e.conditions.map .ofCheckItem).foldl Feature.withCondition (.named e.name.toString e.enabled))

end Entry

/-- The text of a sheet. -/
def text (entries : List Entry) : String :=
  String.ofList (Checklist.text (entries.flatMap Entry.checklists))

end Sheet

namespace Block

open Draft (isConditionsHeading checklistState? conditionOf?)

variable {toggle h list : Node}

theorem toggle_eq (ht : toggle.kind = .list) :
    state? [toggle] = checklistState? toggle.children ∧ told [toggle] = [] := by
  have hstate := state?_snoc [] toggle
  have htold := told_snoc [] toggle
  rw [if_pos ⟨ht, not_behindConditions_nil⟩] at hstate
  rw [if_neg fun hc => not_behindConditions_nil hc.2] at htold
  exact ⟨hstate, htold⟩

theorem toggle_conditions_eq (ht : toggle.kind = .list) (hh : isConditionsHeading h = true) (hl : list.kind = .list) :
    state? [toggle, h, list] = checklistState? toggle.children ∧
      told [toggle, h, list] = list.children.filterMap conditionOf? := by
  have hkind : h.kind ≠ .list := by
    rw [Draft.kind_of_isConditionsHeading hh]
    decide
  have hbehind : BehindConditions ([toggle] ++ [h]) := behindConditions_snoc.2 (.inl hh)
  obtain ⟨hstate, htold⟩ := toggle_eq ht
  have hstate' := state?_snoc [toggle] h
  have htold' := told_snoc [toggle] h
  rw [if_neg fun hc => hkind hc.1, Option.or_none, hstate] at hstate'
  rw [if_neg fun hc => hkind hc.1, List.append_nil, htold] at htold'
  have hstate'' := state?_snoc ([toggle] ++ [h]) list
  have htold'' := told_snoc ([toggle] ++ [h]) list
  rw [if_neg fun hc => hc.2 hbehind, Option.or_none, hstate'] at hstate''
  rw [if_pos ⟨hl, hbehind⟩, htold', List.nil_append] at htold''
  exact ⟨hstate'', htold''⟩

end Block

theorem Draft.foldl_feature {d : Draft} {h : Node} (hh : h.isHeading 2 = true) {front : List Node}
    (hfront : ∀ m ∈ front, m.isHeading 2 = false ∧ m.isHeading 3 = false) {sections : List (Node × List Node)}
    (hsections : ∀ s ∈ sections, s.1.isHeading 3 = true ∧
      ∀ m ∈ s.2, m.isHeading 2 = false ∧ m.isHeading 3 = false) :
    ((h :: front ++ sections.flatMap fun s => s.1 :: s.2).foldl step d).features =
      FeatureSet.add d.features (.ofBlocks h front (sections.map fun s => .ofBlock s.1 s.2)) := by
  have hreads := Reads.foldl (d := d.openFeature h.headingText) Scope.noConfusion rfl rfl hfront
  have hwithin : (front.foldl step (d.openFeature h.headingText)).Within (slugify h.headingText) := .inl hreads.scope
  have htold : ((d.openFeature h.headingText).edit (Feature.told front) (Environment.told front)).features =
      SlugMap.insert d.features (slugify h.headingText) ((Feature.named h.headingText false).told front) := by
    have hscope : (d.openFeature h.headingText).scope = .feature (slugify h.headingText) := rfl
    rw [edit_of_feature hscope]
    exact SlugMap.modify_insert _ _ _ _
  rw [List.cons_append, List.foldl_cons, step_of_feature hh, List.foldl_append, foldl_sections hwithin hsections,
    hreads.features, htold, SlugMap.modify_insert, Feature.told_named]
  rfl

namespace Sheet

variable (s : Section) (e : Entry)

def Section.block : List Node :=
  .list [.ofCheckItem s.toggle] ::
    if s.conditions.isEmpty then [] else [.ofHeading s.conditionList, .list (s.conditions.map .ofCheckItem)]

theorem Section.flatMap_ofChecklist (level : HeadingLevel) :
    (s.checklists level).flatMap Node.ofChecklist = .ofHeading (s.opening level) :: s.block := by
  rw [checklists, block]
  cases hs : s.conditions with
  | nil => rfl
  | cons i is =>
      have hlist : Node.ofChecklist s.conditionList =
          [.ofHeading s.conditionList, .list (s.conditions.map .ofCheckItem)] := by
        rw [Node.ofChecklist, conditionList, hs]
        rfl
      rw [List.isEmpty_cons, if_neg Bool.false_ne_true, if_neg Bool.false_ne_true, List.flatMap_cons,
        List.flatMap_singleton, hlist, hs]
      rfl

theorem Section.isConditionsHeading_conditionList : Draft.isConditionsHeading (.ofHeading s.conditionList) = true := by
  have hname : Text.sameAscii conditionsName.toString.toList "conditions".toList = true := by decide +kernel
  rw [Draft.isConditionsHeading, Node.headingText_ofHeading,
    show (Node.ofHeading s.conditionList).isHeading 4 = true from rfl, Bool.true_and]
  exact hname

theorem Section.told_block :
    Block.state? s.block = some s.enabled ∧ Block.told s.block = s.conditions.map .ofCheckItem := by
  have htoggle : Draft.checklistState? [.ofCheckItem s.toggle] = some s.enabled :=
    Draft.checklistState?_ofCheckItem s.toggle
  have hconditions : (s.conditions.map Node.ofCheckItem).filterMap Draft.conditionOf? = s.conditions.map .ofCheckItem := by
    simp only [List.filterMap_map, Function.comp_def, Draft.conditionOf?_ofCheckItem, List.filterMap_eq_map']
  have ht : (Node.list [.ofCheckItem s.toggle]).kind = .list := rfl
  have hl : (Node.list (s.conditions.map .ofCheckItem)).kind = .list := rfl
  rw [block]
  by_cases hs : s.conditions.isEmpty = true
  · obtain ⟨hstate, htold⟩ := Block.toggle_eq ht
    rw [if_pos hs, hstate, htold, List.isEmpty_iff.1 hs]
    exact ⟨htoggle, rfl⟩
  · obtain ⟨hstate, htold⟩ := Block.toggle_conditions_eq ht s.isConditionsHeading_conditionList hl
    rw [if_neg hs, hstate, htold]
    exact ⟨htoggle, hconditions⟩

theorem Section.isHeading_block : ∀ n ∈ s.block, n.isHeading 2 = false ∧ n.isHeading 3 = false := by
  intro n hn
  have hkind : n.kind = .list ∨ n = .ofHeading s.conditionList := by
    rw [block] at hn
    split at hn <;> simp only [List.mem_cons, List.not_mem_nil, or_false] at hn
    · exact .inl (hn ▸ rfl)
    · rcases hn with rfl | rfl | rfl
      · exact .inl rfl
      · exact .inr rfl
      · exact .inl rfl
  rcases hkind with hlist | rfl
  · exact ⟨Draft.isHeading_of_kind (by rw [hlist]; decide) 2, Draft.isHeading_of_kind (by rw [hlist]; decide) 3⟩
  · exact ⟨rfl, rfl⟩

theorem Section.ofBlock_block (level : HeadingLevel) :
    Environment.ofBlock (.ofHeading (s.opening level)) s.block = s.environment := by
  obtain ⟨hstate, htold⟩ := s.told_block
  rw [Environment.ofBlock, Block.conditions_eq, hstate, htold, Node.headingText_ofHeading, environment,
    Environment.foldl_withCondition]
  rfl

theorem Entry.ofBlocks_block :
    Feature.ofBlocks (.ofHeading (e.opening .h2)) e.block (e.environments.map Section.environment) =
      e.feature := by
  obtain ⟨hstate, htold⟩ := e.told_block
  rw [← Feature.told_named, Feature.told, hstate, htold, Node.headingText_ofHeading, feature, Feature.foldl_withCondition]
  rfl

def Entry.nodes : List Node :=
  .ofHeading (e.opening .h2) :: e.block ++
    (e.environments.map fun s => (Node.ofHeading (s.opening .h3), s.block)).flatMap fun s => s.1 :: s.2

theorem Entry.flatMap_ofChecklist : e.checklists.flatMap Node.ofChecklist = e.nodes := by
  rw [checklists, List.flatMap_append, Section.flatMap_ofChecklist, nodes, List.flatMap_map, List.flatMap_assoc]
  congr 2
  funext s
  exact s.flatMap_ofChecklist .h3

end Sheet

theorem Draft.foldl_entries (d : Draft) (entries : List Sheet.Entry) :
    ((entries.flatMap Sheet.Entry.nodes).foldl step d).features =
      (entries.map Sheet.Entry.feature).foldl FeatureSet.add d.features := by
  induction entries generalizing d with
  | nil => rfl
  | cons e entries ih =>
      have hsections : ∀ s ∈ e.environments.map fun s => (Node.ofHeading (s.opening .h3), s.block),
          s.1.isHeading 3 = true ∧ ∀ m ∈ s.2, m.isHeading 2 = false ∧ m.isHeading 3 = false := by
        rw [List.forall_mem_map]
        exact fun s _ => ⟨rfl, s.isHeading_block⟩
      have henvironments : (fun s => Environment.ofBlock s.1 s.2) ∘
          (fun s : Sheet.Section => (Node.ofHeading (s.opening .h3), s.block)) = Sheet.Section.environment :=
        funext fun s => s.ofBlock_block .h3
      rw [List.flatMap_cons, List.foldl_append, ih, Sheet.Entry.nodes, foldl_feature rfl e.isHeading_block hsections,
        List.map_map, henvironments, e.ofBlocks_block]
      rfl

/-- The text of a sheet is read as its entries, of which a later one takes the place of an earlier one with the same
slug, as later environments and conditions do within an entry. -/
theorem FeatureSet.ofText_sheet [Markdown] {entries : List Sheet.Entry}
    (h : Markdown.ReadsChecklists (entries.flatMap Sheet.Entry.checklists)) :
    ofText (Sheet.text entries) = ofFeatures (entries.map Sheet.Entry.feature) := by
  rw [ofText, Sheet.text, Node.ofText_checklists h, List.flatMap_assoc, funext Sheet.Entry.flatMap_ofChecklist]
  exact Draft.foldl_entries .empty entries

def Sheet.login : Entry :=
  ⟨⟨⟨"Login".toList, by decide, by decide +kernel, by decide +kernel⟩, true, []⟩,
    [⟨⟨"Production 2".toList, by decide, by decide +kernel, by decide +kernel⟩, false,
      [⟨⟨"Beta Users".toList, by decide, by decide +kernel, by decide +kernel⟩, true⟩]⟩]⟩

theorem FeatureSet.ofText_sheet_login :
    Sheet.text [Sheet.login] =
        "## Login\n- [x] Enabled\n### Production 2\n- [ ] Enabled\n#### Conditions\n- [x] Beta Users\n" ∧
      Markdown.ReadsChecklists ([Sheet.login].flatMap Sheet.Entry.checklists) ∧
      ofText (Sheet.text [Sheet.login]) = ofFeatures [Sheet.login.feature] :=
  ⟨by decide +kernel, Markup.readsChecklists _, ofText_sheet (Markup.readsChecklists _)⟩

end FlagSheet
