import FlagSheet.Proofs.Document.Naming
import FlagSheet.Proofs.Slug.Canonical
import Mathlib.Data.List.Nodup

namespace FlagSheet

namespace SlugMap

variable {α : Type} {m : SlugMap α}

theorem nodup_keys (m : SlugMap α) : m.keys.Nodup := by
  rw [List.nodup_iff_pairwise_ne, keys, List.pairwise_map]
  refine m.sorted.imp ?_
  intro a b hlt heq
  rw [heq] at hlt
  exact String.lt_irrefl _ hlt

theorem map_values_of_all {slug : α → String} (h : m.All fun k v => slug v = k) : m.values.map slug = m.keys := by
  rw [values, keys, List.map_map]
  apply List.map_congr_left
  rintro ⟨k, v⟩ hmem
  exact h k v (mem_entries_iff.1 hmem)

/-- Values that have a name and a slug, each under the slug of its name. -/
structure Titled (name slug : α → String) (m : SlugMap α) : Prop where
  key : m.All fun k v => slug v = k
  named : ∀ v ∈ m.values, slug v = slugify (name v) ∧ Slug.Canonical (slug v).toList
  apart : (m.values.map slug).Nodup

theorem titled_of_all {name slug : α → String} (hkey : m.All fun k v => slug v = k)
    (hnamed : m.All fun _ v => slug v = slugify (name v)) : m.Titled name slug where
  key := hkey
  named := by
    intro v hv
    obtain ⟨k, hk⟩ := mem_values.1 hv
    have hslug := hnamed k v hk
    rw [hslug]
    exact ⟨rfl, Slug.canonical_slugify _⟩
  apart := by
    rw [map_values_of_all hkey]
    exact m.nodup_keys

end SlugMap

def Condition.Named (c : Condition) : Prop := c.slug = slugify c.name

structure Environment.Named (e : Environment) : Prop where
  slug : e.slug = slugify e.name
  conditions : e.conditions.All fun _ c => c.Named

structure Feature.Named (f : Feature) : Prop where
  slug : f.slug = slugify f.name
  environments : f.environments.All fun _ e => e.Named
  conditions : f.conditions.All fun _ c => c.Named

theorem Block.named_addTo {m : SlugMap Condition} (h : m.All fun _ c => c.Named) {cs : List Condition}
    (hcs : ∀ c ∈ cs, ∃ name armed, c = .named name armed) : (addTo m cs).All fun _ c => c.Named := by
  refine all_addTo h fun c hc => ?_
  obtain ⟨name, armed, rfl⟩ := hcs c hc
  rfl

theorem Environment.Named.withConditions {e : Environment} (h : e.Named) {cs : List Condition}
    (hcs : ∀ c ∈ cs, ∃ name armed, c = .named name armed) : (cs.foldl withCondition e).Named := by
  rw [foldl_withCondition]
  exact ⟨h.slug, Block.named_addTo h.conditions hcs⟩

theorem Feature.kept_named : Kept fun _ f => f.Named where
  opened _ := ⟨rfl, SlugMap.all_empty, SlugMap.all_empty⟩
  setState h _ := ⟨h.slug, h.environments, h.conditions⟩
  addConditions h cs hcs := by
    rw [foldl_withCondition]
    exact ⟨h.slug, h.environments, Block.named_addTo h.conditions hcs⟩
  openEnvironment h name := ⟨h.slug, h.environments.insert ⟨rfl, SlugMap.all_empty⟩, h.conditions⟩
  setStateIn h slug _ := ⟨h.slug, h.environments.modify slug fun _ he => ⟨he.slug, he.conditions⟩, h.conditions⟩
  addConditionsIn h slug _ hcs :=
    ⟨h.slug, h.environments.modify slug fun _ he => he.withConditions hcs, h.conditions⟩

structure FeatureSet.Titled (fs : FeatureSet) : Prop where
  features : SlugMap.Titled Feature.name Feature.slug fs
  environments : ∀ f ∈ fs.values, f.environments.Titled Environment.name Environment.slug
  conditions : ∀ f ∈ fs.values, f.conditions.Titled Condition.name Condition.slug
  environmentConditions : ∀ f ∈ fs.values, ∀ e ∈ f.environments.values,
    e.conditions.Titled Condition.name Condition.slug

/-- Whatever nodes a document is made of, its features are kept under the slugs of their names. So asking an evaluation
for a feature by its name is asking for its slug. -/
theorem FeatureSet.ofNodes_titled (nodes : List Node) :
    (ofNodes nodes).Titled ∧
    ∀ (environment : String) (c : Context) (r : Registry), ∀ f ∈ (ofNodes nodes).values,
      ((ofNodes nodes).evaluate environment c r).enabled.allows [f.name] = true ↔
        f.slug ∈ ((ofNodes nodes).evaluate environment c r).enabled.toList := by
  have hfiled := filed_ofNodes nodes
  have hnamed := all_ofNodes Feature.kept_named nodes
  have hfeature : ∀ f ∈ (ofNodes nodes).values, f.At f.slug ∧ f.Named := by
    intro f hf
    obtain ⟨k, hk⟩ := SlugMap.mem_values.1 hf
    exact ⟨(hfiled k f hk).slug.symm ▸ hfiled k f hk, hnamed k f hk⟩
  refine ⟨⟨?_, ?_, ?_, ?_⟩, ?_⟩
  · exact SlugMap.titled_of_all (fun k f hk => (hfiled k f hk).slug) fun k f hk => (hnamed k f hk).slug
  · intro f hf
    obtain ⟨hat, hown⟩ := hfeature f hf
    exact SlugMap.titled_of_all (fun k e hk => (hat.environments k e hk).slug)
      fun k e hk => (hown.environments k e hk).slug
  · intro f hf
    obtain ⟨hat, hown⟩ := hfeature f hf
    exact SlugMap.titled_of_all hat.conditions hown.conditions
  · intro f hf e he
    obtain ⟨hat, hown⟩ := hfeature f hf
    obtain ⟨k, hk⟩ := SlugMap.mem_values.1 he
    exact SlugMap.titled_of_all (hat.environments k e hk).conditions (hown.environments k e hk).conditions
  · intro environment c r f hf
    rw [SlugSet.allows_singleton, (hfeature f hf).2.slug]

end FlagSheet
