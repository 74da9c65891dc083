import FlagSheet.Feature.Basic
import FlagSheet.Node

namespace FlagSheet

inductive Scope where
  | outside
  | feature (slug : String)
  | environment (feature slug : String)
deriving DecidableEq, Repr

structure Draft where
  features : FeatureSet
  scope : Scope
  inConditions : Bool
  toggled : Bool

namespace Draft

open Text

def empty : Draft := ⟨∅, .outside, false, false⟩

def edit (onFeature : Feature → Feature) (onEnvironment : Environment → Environment) (d : Draft) :
    Draft :=
  match d.scope with
  | .outside => d
  | .feature slug => { d with features := d.features.modify slug onFeature }
  | .environment feature slug =>
    { d with features := d.features.modify feature fun f =>
        { f with environments := f.environments.modify slug onEnvironment } }

def openFeature (d : Draft) (name : String) : Draft :=
  let f := Feature.named name false
  ⟨FeatureSet.add d.features f, .feature f.slug, false, false⟩

def openEnvironment (d : Draft) (name : String) : Draft :=
  let e := Environment.named name false
  let opened (feature : String) : Draft :=
    ⟨d.features.modify feature (·.withEnvironment e), .environment feature e.slug, false, false⟩
  match d.scope with
  | .outside => d
  | .feature feature => opened feature
  | .environment feature _ => opened feature

def checklistState? (items : List Node) : Option Bool := items.findSome? (Checkbox.state ·.raw)

/-- Sets the state of what is open, unless it has been set. -/
def applyChecklist (d : Draft) (items : List Node) : Draft :=
  if d.toggled then d
  else
    match checklistState? items with
    | none => d
    | some checked =>
      { d.edit ({ · with enabled := checked }) ({ · with enabled := checked }) with toggled := true }

def conditionOf? (item : Node) : Option Condition :=
  (Checkbox.split (firstLine item.raw.toList)).map fun (armed, name) =>
    .named (String.ofList (trim name)) armed

def addConditions (d : Draft) (items : List Node) : Draft :=
  let conditions := items.filterMap conditionOf?
  d.edit (conditions.foldl Feature.withCondition ·) (conditions.foldl Environment.withCondition ·)

def isConditionsHeading (n : Node) : Bool :=
  n.isHeading 4 && sameAscii n.headingText.toList "conditions".toList

def stepWithin (d : Draft) (n : Node) : Draft :=
  if n.isHeading 3 then d.openEnvironment n.headingText
  else if isConditionsHeading n then { d with inConditions := true }
  else if n.kind = .list then d.applyChecklist n.children
  else d

/-- A heading of depth two opens a feature, one of depth three an environment of it, and a heading
`Conditions` of depth four a block of conditions, which lasts as long as lists follow. The first list with a
checkbox sets the state of what is open. -/
def step (d : Draft) (n : Node) : Draft :=
  if n.isHeading 2 then d.openFeature n.headingText
  else if d.inConditions && n.kind = .list then d.addConditions n.children
  else
    let d := { d with inConditions := false }
    match d.scope with
    | .outside => d
    | _ => d.stepWithin n

end Draft

namespace FeatureSet

def ofNodes (nodes : List Node) : FeatureSet := (nodes.foldl Draft.step .empty).features

def ofText [Markdown] (text : String) : FeatureSet := ofNodes (Node.ofText text)

def ofDocument? [Markdown] : Option String → Option FeatureSet
  | none => none
  | some text => if Text.allBlank text then none else some (ofText text)

end FeatureSet

end FlagSheet
