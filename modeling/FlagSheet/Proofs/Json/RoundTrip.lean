import FlagSheet.Document
import FlagSheet.Evaluation
import FlagSheet.Feature.Json
import FlagSheet.Node.Json
import FlagSheet.Proofs.SlugMap
import Mathlib.Logic.Function.Basic

namespace FlagSheet

theorem injective_of_reads {α β : Type} {encode : α → β} {read? : β → Option α} (h : ∀ a, read? (encode a) = some a) :
    Function.Injective encode := by
  intro a b hab
  exact Option.some.inj ((h a).symm.trans ((congrArg read? hab).trans (h b)))

namespace SlugMap

variable {α : Type} {encode : α → Json} {read? : Json → Option α}

theorem readMembers?_map (h : ∀ v, read? (encode v) = some v) (entries : List (String × α)) :
    readMembers? read? (entries.map fun e => (e.1, encode e.2)) = some entries := by
  induction entries with
  | nil => rfl
  | cons e entries ih => rw [List.map_cons, readMembers?, h, ih]; rfl

theorem ofJson?_toJson (h : ∀ v, read? (encode v) = some v) (m : SlugMap α) :
    ofJson? read? (m.toJson encode) = some m := by
  rw [toJson, ofJson?, readMembers?_map h, Option.map_some, ofList_entries]

end SlugMap

theorem Json.record?_object (members : List (String × Json)) (h : (members.map (·.1)).Nodup) :
    (object members).record? (members.map (·.1)) = some (members.map fun m => some m.2) := by
  refine congrArg some ?_
  induction members with
  | nil => rfl
  | cons m members ih =>
      rw [List.map_cons, List.nodup_cons] at h
      rw [List.map_cons, List.map_cons, List.map_cons, ← ih h.2, get?, List.lookup_cons_self]
      refine congrArg (some m.2 :: ·) (List.map_congr_left fun name hname => ?_)
      have hne : (name == m.1) = false := beq_eq_false_iff_ne.2 fun heq => h.1 (heq ▸ hname)
      rw [get?, get?, List.lookup_cons, hne]

theorem Condition.ofJson?_toJson (c : Condition) : ofJson? c.toJson = some c := by
  have hrecord : c.toJson.record? fields = some [some (.string c.name), some (.string c.slug), some (.bool c.enabled)] :=
    Json.record?_object _ (show fields.Nodup by decide)
  rw [ofJson?, hrecord]
  rfl

theorem Environment.ofJson?_toJson (e : Environment) : ofJson? e.toJson = some e := by
  have hrecord : e.toJson.record? fields = some [some (.string e.name), some (.string e.slug), some (.bool e.enabled),
      some (e.conditions.toJson Condition.toJson)] :=
    Json.record?_object _ (show fields.Nodup by decide)
  have hconditions := SlugMap.ofJson?_toJson Condition.ofJson?_toJson e.conditions
  rw [ofJson?, hrecord]
  simp [Json.string?, Json.bool?, SlugMap.ofOptionalJson?, hconditions]

theorem Feature.ofJson?_toJson (f : Feature) : ofJson? f.toJson = some f := by
  have hrecord : f.toJson.record? fields = some [some (.string f.name), some (.string f.slug), some (.bool f.enabled),
      some (f.environments.toJson Environment.toJson), some (f.conditions.toJson Condition.toJson)] :=
    Json.record?_object _ (show fields.Nodup by decide)
  have henvironments := SlugMap.ofJson?_toJson Environment.ofJson?_toJson f.environments
  have hconditions := SlugMap.ofJson?_toJson Condition.ofJson?_toJson f.conditions
  rw [ofJson?, hrecord]
  simp [Json.string?, Json.bool?, SlugMap.ofOptionalJson?, henvironments, hconditions]

theorem FeatureSet.ofJson?_toJson (fs : FeatureSet) : ofJson? fs.toJson = some fs :=
  SlugMap.ofJson?_toJson Feature.ofJson?_toJson fs

theorem NodeKind.ofJson?_name (kind : NodeKind) : ofJson? (.string kind.name) = some kind := by
  cases kind <;> rfl

namespace Node

theorem depthOf?_ofNat (depth : UInt8) : depthOf? (.ofNat depth.toNat) = some depth := by
  have hlt : depth.toNat < 256 := depth.toNat_lt
  have hword : (UInt64.ofNat depth.toNat).toNat = depth.toNat := UInt64.toNat_ofNat_of_lt' (Nat.lt_trans hlt (by decide))
  rw [Json.ofNat, depthOf?, hword, if_pos hlt, UInt8.ofNat_toNat]

theorem exists_members (n : Node) : ∃ members, n.toJson = .object members ∧
    Json.get? members "children" = if n.children = [] then none else some (.array (toJsonAll n.children)) := by
  obtain ⟨kind, depth, raw, children⟩ := n
  cases children with
  | nil => exact ⟨_, rfl, by simp [Json.get?, List.lookup_cons]⟩
  | cons c cs => exact ⟨_, rfl, by simp [Json.get?, List.lookup_cons, toJsonAll]⟩

mutual

theorem ofJson?_toJson : (n : Node) → ofJson? n.toJson = some n
  | ⟨kind, depth, raw, []⟩ => by
    simp [toJson, ofJson?, build?, Json.get?, List.lookup_cons, childrenOf?, NodeKind.ofJson?_name, depthOf?_ofNat,
      Json.string?]
  | ⟨kind, depth, raw, c :: cs⟩ => by
    have hchildren : ofJsonAll? (c.toJson :: toJsonAll cs) = some (c :: cs) := by
      rw [ofJsonAll?, ofJson?_toJson c, ofJsonAll?_toJsonAll cs]
      rfl
    simp [toJson, ofJson?, build?, Json.get?, List.lookup_cons, childrenOf?, NodeKind.ofJson?_name, depthOf?_ofNat,
      Json.string?, hchildren]

theorem ofJsonAll?_toJsonAll : (ns : List Node) → ofJsonAll? (toJsonAll ns) = some ns
  | [] => rfl
  | n :: ns => by
    rw [toJsonAll, ofJsonAll?, ofJson?_toJson n, ofJsonAll?_toJsonAll ns]
    rfl

end

end Node

/-- Features and nodes are read back from their forms as they were, so that no two of them have the same form and what is
read is parsed and evaluated alike. -/
theorem Json.ofJson?_forms :
    (∀ fs : FeatureSet, FeatureSet.ofJson? fs.toJson = some fs ∧
      ∀ environment c r, (FeatureSet.ofJson? fs.toJson).map (·.evaluate environment c r) =
        some (fs.evaluate environment c r)) ∧
    (∀ n : Node, Node.ofJson? n.toJson = some n ∧ ∃ members, n.toJson = .object members ∧
      (get? members "children" = none ↔ n.children = [])) ∧
    (∀ ns : List Node, (Node.listOfJson? (.array (Node.toJsonAll ns))).map FeatureSet.ofNodes =
      some (FeatureSet.ofNodes ns)) ∧
    Function.Injective FeatureSet.toJson ∧ Function.Injective Node.toJson := by
  refine ⟨fun fs => ⟨fs.ofJson?_toJson, fun _ _ _ => ?_⟩, fun n => ⟨n.ofJson?_toJson, ?_⟩, fun ns => ?_,
    injective_of_reads FeatureSet.ofJson?_toJson, injective_of_reads Node.ofJson?_toJson⟩
  · rw [fs.ofJson?_toJson, Option.map_some]
  · obtain ⟨members, hmembers, hchildren⟩ := n.exists_members
    refine ⟨members, hmembers, ?_⟩
    rw [hchildren, ite_eq_left_iff]
    simp
  · rw [Node.listOfJson?, Node.ofJsonAll?_toJsonAll, Option.map_some]

end FlagSheet
