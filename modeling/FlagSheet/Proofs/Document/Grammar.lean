import FlagSheet.Proofs.Document.Block

namespace FlagSheet

open Draft (checklistState? conditionOf? isConditionsHeading)

variable {d d' : Draft} {block : List Node} {n : Node}

def Block.addTo (m : SlugMap Condition) (cs : List Condition) : SlugMap Condition :=
  cs.foldl (fun m c => m.insert c.slug c) m

def Feature.told (block : List Node) (f : Feature) : Feature :=
  { f with
    enabled := (Block.state? block).getD f.enabled
    conditions := Block.addTo f.conditions (Block.told block) }

def Environment.told (block : List Node) (e : Environment) : Environment :=
  { e with
    enabled := (Block.state? block).getD e.enabled
    conditions := Block.addTo e.conditions (Block.told block) }

theorem Feature.told_congr {block block' : List Node} (hstate : Block.state? block = Block.state? block')
    (htold : Block.told block = Block.told block') : told block = told block' := by
  funext f
  rw [told, told, hstate, htold]

theorem Environment.told_congr {block block' : List Node} (hstate : Block.state? block = Block.state? block')
    (htold : Block.told block = Block.told block') : told block = told block' := by
  funext e
  rw [told, told, hstate, htold]

theorem Block.conditions_eq (block : List Node) : conditions block = addTo ∅ (told block) := List.foldl_map

theorem Block.addTo_append (m : SlugMap Condition) (cs cs' : List Condition) :
    addTo m (cs ++ cs') = addTo (addTo m cs) cs' := List.foldl_append

theorem Feature.foldl_withCondition (f : Feature) (cs : List Condition) :
    cs.foldl withCondition f = { f with conditions := Block.addTo f.conditions cs } := by
  induction cs generalizing f with
  | nil => rfl
  | cons c cs ih => rw [List.foldl_cons, ih]; rfl

theorem Environment.foldl_withCondition (e : Environment) (cs : List Condition) :
    cs.foldl withCondition e = { e with conditions := Block.addTo e.conditions cs } := by
  induction cs generalizing e with
  | nil => rfl
  | cons c cs ih => rw [List.foldl_cons, ih]; rfl

namespace Draft

/-- The second draft is the first one behind a block that has been read within what is open. -/
structure Reads (d : Draft) (block : List Node) (d' : Draft) : Prop where
  features : d'.features = (d.edit (Feature.told block) (Environment.told block)).features
  scope : d'.scope = d.scope
  inConditions : d'.inConditions = decide (Block.BehindConditions block)
  toggled : d'.toggled = (Block.state? block).isSome

theorem Reads.nil (hc : d.inConditions = false) (ht : d.toggled = false) : d.Reads [] d where
  features := d.features_edit_id.symm
  scope := rfl
  inConditions := by simp [hc, Block.not_behindConditions_nil]
  toggled := ht

theorem Reads.conditionList (h : d.Reads block d') (hlist : n.kind = .list) (hc : Block.BehindConditions block) :
    d.Reads (block ++ [n]) (d'.addConditions n.children) := by
  have htold : Block.told (block ++ [n]) = Block.told block ++ n.children.filterMap conditionOf? := by
    rw [Block.told_snoc, if_pos ⟨hlist, hc⟩]
  have hstate : Block.state? (block ++ [n]) = Block.state? block := by
    rw [Block.state?_snoc, if_neg (fun h => h.2 hc), Option.or_none]
  refine ⟨?_, (scope_edit _ _ _).trans h.scope, ?_, ?_⟩
  · rw [addConditions, features_edit_edit h.scope h.features]
    have hf : (n.children.filterMap conditionOf?).foldl Feature.withCondition ∘ Feature.told block =
        Feature.told (block ++ [n]) := by
      funext f
      rw [Function.comp_apply, Feature.foldl_withCondition, Feature.told, Feature.told, hstate, htold,
        Block.addTo_append]
    have he : (n.children.filterMap conditionOf?).foldl Environment.withCondition ∘ Environment.told block =
        Environment.told (block ++ [n]) := by
      funext e
      rw [Function.comp_apply, Environment.foldl_withCondition, Environment.told, Environment.told, hstate, htold,
        Block.addTo_append]
    exact congrArg Draft.features (congrArg₂ d.edit hf he)
  · rw [addConditions, inConditions_edit, h.inConditions, decide_eq_decide, Block.behindConditions_snoc]
    exact ⟨fun _ => .inr ⟨hlist, hc⟩, fun _ => hc⟩
  · rw [addConditions, toggled_edit, h.toggled, hstate]

theorem Reads.stateList (h : d.Reads block d') (hlist : n.kind = .list) (hc : ¬Block.BehindConditions block) :
    d.Reads (block ++ [n]) (d'.applyChecklist n.children) := by
  have htold : Block.told (block ++ [n]) = Block.told block := by
    rw [Block.told_snoc, if_neg (fun h => hc h.2), List.append_nil]
  have hstate : Block.state? (block ++ [n]) = (Block.state? block).or (checklistState? n.children) := by
    rw [Block.state?_snoc, if_pos ⟨hlist, hc⟩]
  have hbehind : decide (Block.BehindConditions (block ++ [n])) = false := by
    rw [decide_eq_false_iff_not, Block.behindConditions_snoc]
    rintro (hn | ⟨-, hn⟩)
    · rw [kind_of_isConditionsHeading hn] at hlist
      cases hlist
    · exact hc hn
  have hclosed : d'.inConditions = false := by rw [h.inConditions, decide_eq_false hc]
  -- Where the state stays as it is, so does the draft.
  have hsame (hs : Block.state? (block ++ [n]) = Block.state? block) : d.Reads (block ++ [n]) d' := by
    refine ⟨?_, h.scope, by rw [hclosed, hbehind], by rw [h.toggled, hs]⟩
    rw [Feature.told_congr hs htold, Environment.told_congr hs htold]
    exact h.features
  unfold applyChecklist
  rw [h.toggled]
  cases hs : Block.state? block with
  | some state => exact hsame (by rw [hstate, hs, Option.some_or])
  | none =>
      rw [Option.isSome_none, if_neg Bool.false_ne_true]
      cases hchecked : checklistState? n.children with
      | none => exact hsame (by rw [hstate, hs, hchecked, Option.none_or])
      | some checked =>
          have hsome : Block.state? (block ++ [n]) = some checked := by rw [hstate, hs, hchecked, Option.none_or]
          refine ⟨?_, (scope_edit _ _ _).trans h.scope, ?_, by rw [hsome]; rfl⟩
          · refine (features_edit_edit h.scope h.features _ _).trans ?_
            have hf : (fun f : Feature => { f with enabled := checked }) ∘ Feature.told block =
                Feature.told (block ++ [n]) := by
              funext f
              simp only [Function.comp_apply, Feature.told, htold, hsome, Option.getD_some]
            have he : (fun e : Environment => { e with enabled := checked }) ∘ Environment.told block =
                Environment.told (block ++ [n]) := by
              funext e
              simp only [Function.comp_apply, Environment.told, htold, hsome, Option.getD_some]
            exact congrArg Draft.features (congrArg₂ d.edit hf he)
          · rw [hbehind]
            exact (inConditions_edit _ _ _).trans hclosed

theorem Reads.other (h : d.Reads block d') (hlist : n.kind ≠ .list) :
    d.Reads (block ++ [n]) { d' with inConditions := isConditionsHeading n } := by
  have htold : Block.told (block ++ [n]) = Block.told block := by
    rw [Block.told_snoc, if_neg (fun h => hlist h.1), List.append_nil]
  have hstate : Block.state? (block ++ [n]) = Block.state? block := by
    rw [Block.state?_snoc, if_neg (fun h => hlist h.1), Option.or_none]
  refine ⟨?_, h.scope, ?_, ?_⟩
  · rw [Feature.told_congr hstate htold, Environment.told_congr hstate htold]
    exact h.features
  · rw [Bool.eq_iff_iff, decide_eq_true_eq, Block.behindConditions_snoc]
    exact ⟨.inl, fun hn => hn.resolve_right fun hn => hlist hn.1⟩
  · rw [hstate]
    exact h.toggled

theorem Reads.step (h : d.Reads block d') (hscope : d.scope ≠ .outside) (hfeature : n.isHeading 2 = false)
    (henvironment : n.isHeading 3 = false) : d.Reads (block ++ [n]) (d'.step n) := by
  have hscope' : d'.scope ≠ .outside := by rw [h.scope]; exact hscope
  by_cases hlist : n.kind = .list
  · by_cases hc : Block.BehindConditions block
    · rw [step_of_condition_list hfeature (by rw [h.inConditions, decide_eq_true hc]) hlist]
      exact h.conditionList hlist hc
    · have hclosed : d'.inConditions = false := by rw [h.inConditions, decide_eq_false hc]
      rw [step_of_within hfeature (by simp [hclosed]) hscope', stepWithin_of_list hlist, ← hclosed]
      exact h.stateList hlist hc
  · rw [step_of_within hfeature (fun _ => hlist) hscope', stepWithin_of_other henvironment hlist, Bool.or_false]
    exact h.other hlist

theorem Reads.foldl (hscope : d.scope ≠ .outside) (hc : d.inConditions = false) (ht : d.toggled = false)
    (hblock : ∀ n ∈ block, n.isHeading 2 = false ∧ n.isHeading 3 = false) :
    d.Reads block (block.foldl Draft.step d) := by
  induction block using List.reverseRecOn with
  | nil => exact .nil hc ht
  | append_singleton block n ih =>
      obtain ⟨hfeature, henvironment⟩ := hblock n (List.mem_append_right _ (List.mem_singleton_self n))
      rw [List.foldl_append]
      exact (ih fun m hm => hblock m (List.mem_append_left _ hm)).step hscope hfeature henvironment

end Draft

namespace Block

/-- The nodes before the first heading of an environment, and behind each such heading those up to the next one. -/
def cut : List Node → List Node × List (Node × List Node)
  | [] => ([], [])
  | n :: ns => if n.isHeading 3 then ([], (n, (cut ns).1) :: (cut ns).2) else (n :: (cut ns).1, (cut ns).2)

theorem cut_join (ns : List Node) : (cut ns).1 ++ (cut ns).2.flatMap (fun s => s.1 :: s.2) = ns := by
  induction ns with
  | nil => rfl
  | cons n ns ih =>
      rw [cut]
      by_cases hn : n.isHeading 3 = true
      · rw [if_pos hn]
        exact congrArg (n :: ·) ih
      · rw [if_neg hn]
        exact congrArg (n :: ·) ih

theorem cut_blocks (ns : List Node) :
    (∀ n ∈ (cut ns).1, n.isHeading 3 = false) ∧
      ∀ s ∈ (cut ns).2, s.1.isHeading 3 = true ∧ ∀ n ∈ s.2, n.isHeading 3 = false := by
  induction ns with
  | nil => simp [cut]
  | cons n ns ih =>
      obtain ⟨hfront, hsections⟩ := ih
      rw [cut]
      by_cases hn : n.isHeading 3 = true
      · rw [if_pos hn]
        exact ⟨by simp, List.forall_mem_cons.2 ⟨⟨hn, hfront⟩, hsections⟩⟩
      · rw [if_neg hn]
        exact ⟨List.forall_mem_cons.2 ⟨Bool.eq_false_iff.2 hn, hfront⟩, hsections⟩

end Block

def Environment.ofBlock (h : Node) (block : List Node) : Environment where
  name := h.headingText
  slug := slugify h.headingText
  enabled := (Block.state? block).getD false
  conditions := Block.conditions block

/-- The feature of a heading, the block behind it, and the environments that follow. Of those with the same slug, the
last one counts. -/
def Feature.ofBlocks (h : Node) (front : List Node) (environments : List Environment) : Feature where
  name := h.headingText
  slug := slugify h.headingText
  enabled := (Block.state? front).getD false
  environments := .ofList (environments.map fun e => (e.slug, e))
  conditions := Block.conditions front

theorem Environment.told_named (h : Node) (block : List Node) :
    (named h.headingText false).told block = ofBlock h block := by
  rw [ofBlock, Block.conditions_eq]
  rfl

theorem Feature.foldl_withEnvironment (f : Feature) (es : List Environment) :
    es.foldl withEnvironment f =
      { f with environments := es.foldl (fun m e => m.insert e.slug e) f.environments } := by
  induction es generalizing f with
  | nil => rfl
  | cons e es ih => rw [List.foldl_cons, ih]; rfl

theorem Feature.told_named (h : Node) (front : List Node) (es : List Environment) :
    es.foldl withEnvironment ((named h.headingText false).told front) = ofBlocks h front es := by
  rw [foldl_withEnvironment, ofBlocks, Block.conditions_eq, SlugMap.ofList, List.foldl_map]
  rfl

namespace Draft

theorem foldl_section {slug : String} (hd : d.Within slug) (hn : n.isHeading 3 = true)
    (hblock : ∀ m ∈ block, m.isHeading 2 = false ∧ m.isHeading 3 = false) :
    ((n :: block).foldl step d).features = d.features.modify slug (·.withEnvironment (.ofBlock n block)) ∧
      ((n :: block).foldl step d).Within slug := by
  rw [List.foldl_cons, step_environment hd hn]
  have hreads := Reads.foldl (d := ⟨d.features.modify slug (·.withEnvironment (Environment.named n.headingText false)),
    .environment slug (slugify n.headingText), false, false⟩) Scope.noConfusion rfl rfl hblock
  refine ⟨?_, .inr ⟨_, hreads.scope⟩⟩
  rw [hreads.features, edit]
  dsimp only
  rw [SlugMap.modify_modify]
  congr 1
  funext f
  rw [Function.comp_apply, Feature.withEnvironment, Feature.withEnvironment, ← Environment.told_named]
  dsimp only
  rw [show (Environment.named n.headingText false).slug = slugify n.headingText from rfl, SlugMap.modify_insert]
  rfl

theorem foldl_sections {slug : String} (hd : d.Within slug) {sections : List (Node × List Node)}
    (hsections : ∀ s ∈ sections, s.1.isHeading 3 = true ∧
      ∀ m ∈ s.2, m.isHeading 2 = false ∧ m.isHeading 3 = false) :
    ((sections.flatMap fun s => s.1 :: s.2).foldl step d).features =
      d.features.modify slug ((sections.map fun s => Environment.ofBlock s.1 s.2).foldl Feature.withEnvironment ·) := by
  induction sections generalizing d with
  | nil => exact (SlugMap.modify_id _ _).symm
  | cons s sections ih =>
      rw [List.forall_mem_cons] at hsections
      obtain ⟨⟨hn, hblock⟩, hrest⟩ := hsections
      obtain ⟨hfeatures, hwithin⟩ := foldl_section hd hn hblock
      rw [List.flatMap_cons, List.foldl_append, ih hwithin hrest, hfeatures, SlugMap.modify_modify]
      rfl

end Draft

/-- A heading of a feature, with nodes behind it that are no such headings, is the one feature that its blocks
describe. -/
theorem FeatureSet.ofNodes_feature {h : Node} (hh : h.isHeading 2 = true) {body : List Node}
    (hbody : ∀ n ∈ body, n.isHeading 2 = false) :
    ofNodes (h :: body) = ofFeatures
      [.ofBlocks h (Block.cut body).1 ((Block.cut body).2.map fun s => .ofBlock s.1 s.2)] := by
  obtain ⟨hfront, hsections⟩ := Block.cut_blocks body
  have hmem {m : Node} (hm : m ∈ (Block.cut body).1 ∨ ∃ s ∈ (Block.cut body).2, m ∈ s.2) : m ∈ body := by
    rw [← Block.cut_join body, List.mem_append, List.mem_flatMap]
    exact hm.imp_right fun ⟨s, hs, hms⟩ => ⟨s, hs, List.mem_cons_of_mem _ hms⟩
  have hblock : ∀ m ∈ (Block.cut body).1, m.isHeading 2 = false ∧ m.isHeading 3 = false :=
    fun m hm => ⟨hbody m (hmem (.inl hm)), hfront m hm⟩
  have hreads := Draft.Reads.foldl (d := Draft.empty.openFeature h.headingText) Scope.noConfusion rfl rfl hblock
  have hwithin : ((Block.cut body).1.foldl Draft.step (Draft.empty.openFeature h.headingText)).Within
      (slugify h.headingText) := .inl hreads.scope
  have hfold := Draft.foldl_sections hwithin (fun s hs =>
    ⟨(hsections s hs).1, fun m hm => ⟨hbody m (hmem (.inr ⟨s, hs, hm⟩)), (hsections s hs).2 m hm⟩⟩)
  have hfeatures : (body.foldl Draft.step (Draft.empty.openFeature h.headingText)).features =
      SlugMap.insert ∅ (slugify h.headingText) (.ofBlocks h (Block.cut body).1
        ((Block.cut body).2.map fun s => .ofBlock s.1 s.2)) := by
    conv_lhs => rw [← Block.cut_join body]
    rw [List.foldl_append, hfold, hreads.features, ← Feature.told_named]
    change ((SlugMap.insert ∅ (slugify h.headingText) _).modify (slugify h.headingText) _).modify _ _ = _
    rw [SlugMap.modify_insert, SlugMap.modify_insert]
  rw [ofNodes, List.foldl_cons, Draft.step_of_feature hh, hfeatures]
  rfl

theorem FeatureSet.ofNodes_login :
    ofNodes [.heading 2 "## Login", .list [.item "- [x] Enabled"], .heading 3 "### Production",
        .heading 4 "#### Conditions", .list [.item "- [x] Staff"], .list [.item "- [ ] Beta Users"]] =
      ofFeatures [⟨"Login", "login", true,
        .ofList [("production", ⟨"Production", "production", false,
          .ofList [("staff", ⟨"Staff", "staff", true⟩), ("beta-users", ⟨"Beta Users", "beta-users", false⟩)]⟩)], ∅⟩] :=
  (ofNodes_feature (by decide) (by decide)).trans (by decide +kernel)

end FlagSheet
