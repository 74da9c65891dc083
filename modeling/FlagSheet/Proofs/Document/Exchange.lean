import FlagSheet.Proofs.Document.Filed

namespace FlagSheet

def IsSection (ns : List Node) : Prop := ∀ n ∈ ns.head?, n.isHeading 2 = true

instance : DecidablePred IsSection := fun ns => inferInstanceAs (Decidable (∀ n ∈ ns.head?, n.isHeading 2 = true))

theorem Draft.get?_foldl_section {ns : List Node} (hns : IsSection ns) (d : Draft) (k : String) :
    (ns.foldl step d).features.get? k = ((FeatureSet.ofNodes ns).get? k).or (d.features.get? k) := by
  cases ns with
  | nil => rfl
  | cons h ns =>
      have hh : h.isHeading 2 = true := hns h rfl
      have hopen : Over d.features (empty.openFeature h.headingText) (d.openFeature h.headingText) :=
        .openFeature (fun _ => rfl) _
      rw [FeatureSet.ofNodes, List.foldl_cons, List.foldl_cons, step_of_feature hh, step_of_feature hh]
      exact (hopen.foldl ns).get? k

namespace FeatureSet

theorem get?_ofNodes_eq_none {ns : List Node} {k : String}
    (h : ∀ n ∈ ns, n.isHeading 2 = true → slugify n.headingText ≠ k) : (ofNodes ns).get? k = none := by
  rw [← Option.not_isSome_iff_eq_none, ofNodes, Draft.isSome_get?_foldl]
  rintro (⟨n, hn, hheading, hk⟩ | hempty)
  · exact h n hn hheading hk.symm
  · exact Bool.false_ne_true hempty

theorem get?_ofNodes_around {before s after : List Node} (hs : IsSection s) (hafter : IsSection after) {k : String}
    (hk : ∀ n ∈ s, n.isHeading 2 = true → slugify n.headingText ≠ k) :
    (ofNodes (before ++ s ++ after)).get? k = ((ofNodes after).get? k).or ((ofNodes before).get? k) := by
  rw [ofNodes, List.foldl_append, Draft.get?_foldl_section hafter, List.foldl_append, Draft.get?_foldl_section hs,
    get?_ofNodes_eq_none hk, Option.none_or]
  rfl

/-- Under a slug that neither of two sections describes, a feature is enabled with the one just when it is with the
other. -/
theorem mem_evaluate_exchange {before s t after : List Node} (hs : IsSection s) (ht : IsSection t)
    (hafter : IsSection after) (environment : String) (c : Context) (r : Registry) {slug : String}
    (hslug : ∀ n ∈ s ++ t, n.isHeading 2 = true → slugify n.headingText ≠ slug) :
    slug ∈ ((ofNodes (before ++ s ++ after)).evaluate environment c r).enabled.toList ↔
      slug ∈ ((ofNodes (before ++ t ++ after)).evaluate environment c r).enabled.toList := by
  rw [mem_evaluate_iff_get? (filed_ofNodes _), mem_evaluate_iff_get? (filed_ofNodes _),
    get?_ofNodes_around hs hafter fun n hn => hslug n (List.mem_append_left t hn),
    get?_ofNodes_around ht hafter fun n hn => hslug n (List.mem_append_right s hn)]

/-- The section that is taken out stands behind an open block of conditions. -/
theorem mem_evaluate_exchange_login :
    ("login" ∈ ((ofNodes ([.heading 2 "## Login", .list [.item "- [x] Enabled"], .heading 4 "#### Conditions"] ++
        [.heading 2 "## Search", .list [.item "- [x] Enabled"], .heading 3 "### Production"] ++
        [.heading 2 "## Export"])).evaluate "production" ∅ ∅).enabled.toList ↔
      "login" ∈ ((ofNodes ([.heading 2 "## Login", .list [.item "- [x] Enabled"], .heading 4 "#### Conditions"] ++
        [] ++ [.heading 2 "## Export"])).evaluate "production" ∅ ∅).enabled.toList) ∧
    "login" ∈ ((ofNodes ([.heading 2 "## Login", .list [.item "- [x] Enabled"], .heading 4 "#### Conditions"] ++
        [] ++ [.heading 2 "## Export"])).evaluate "production" ∅ ∅).enabled.toList :=
  ⟨mem_evaluate_exchange (by decide) (by decide) (by decide) _ _ _ (by decide +kernel), by decide +kernel⟩

end FeatureSet

end FlagSheet
