namespace WidgetMarkup

/-!
# Kinds of widgets

The kinds form a tree under the plain actor. Capabilities cut across it: a kind has those it adds
and those of its parent. An attribute is looked up along the ancestry of a kind, from the kind
itself over its parents and its capabilities to the actor.
-/

/-- What a widget can do, whatever its kind. -/
inductive Capability where
  | textBearing
  | layout
  | alignable
  | disableable
  | toggleable
  | rangeValued
  | padded
  | titled
deriving Repr, DecidableEq, Inhabited

namespace Capability

/-- Every capability, in the order in which they are listed. -/
def all : List Capability :=
  [textBearing, layout, alignable, disableable, toggleable, rangeValued, padded, titled]

/-- The name of a capability. -/
def name : Capability → String
  | textBearing => "TextBearing"
  | layout => "Layout"
  | alignable => "Alignable"
  | disableable => "Disableable"
  | toggleable => "Toggleable"
  | rangeValued => "RangeValued"
  | padded => "Padded"
  | titled => "Titled"

/-- The capabilities in either list, once each and in the order in which they are listed. -/
def union (left right : List Capability) : List Capability :=
  all.filter fun capability => left.contains capability || right.contains capability

/-- A capability is in the union exactly if it is in one of the lists. -/
theorem mem_union_iff
    {capability : Capability}
    {left right : List Capability} :
    capability ∈ union left right ↔ capability ∈ left ∨ capability ∈ right := by
  have known : capability ∈ all := by
    cases capability <;> simp [all]
  simp [union, known]

end Capability

/-- A kind of widget. -/
inductive WidgetKind where
  | actor
  | group
  | label
  | image
  | textField
  | textArea
  | progressBar
  | slider
  | container
  | scrollPane
  | stack
  | horizontalGroup
  | verticalGroup
  | table
  | button
  | textButton
  | checkBox
  | window
deriving Repr, DecidableEq, Inhabited

namespace WidgetKind

/-- Every kind, in the order in which they are listed. -/
def all : List WidgetKind :=
  [actor, group, label, image, textField, textArea, progressBar, slider, container, scrollPane,
    stack, horizontalGroup, verticalGroup, table, button, textButton, checkBox, window]

/-- The name of a kind. -/
def name : WidgetKind → String
  | actor => "actor"
  | group => "group"
  | label => "label"
  | image => "image"
  | textField => "textField"
  | textArea => "textArea"
  | progressBar => "progressBar"
  | slider => "slider"
  | container => "container"
  | scrollPane => "scrollPane"
  | stack => "stack"
  | horizontalGroup => "horizontalGroup"
  | verticalGroup => "verticalGroup"
  | table => "table"
  | button => "button"
  | textButton => "textButton"
  | checkBox => "checkBox"
  | window => "window"

/-- The kind right above a kind. -/
def parent? : WidgetKind → Option WidgetKind
  | actor => none
  | group => some actor
  | label => some actor
  | image => some actor
  | textField => some actor
  | progressBar => some actor
  | textArea => some textField
  | slider => some progressBar
  | container => some group
  | scrollPane => some group
  | stack => some group
  | horizontalGroup => some group
  | verticalGroup => some group
  | table => some group
  | button => some table
  | window => some table
  | textButton => some button
  | checkBox => some textButton

/-- The number of kinds above a kind. -/
def rank : WidgetKind → Nat
  | actor => 0
  | group => 1
  | label => 1
  | image => 1
  | textField => 1
  | progressBar => 1
  | textArea => 2
  | slider => 2
  | container => 2
  | scrollPane => 2
  | stack => 2
  | horizontalGroup => 2
  | verticalGroup => 2
  | table => 2
  | button => 3
  | window => 3
  | textButton => 4
  | checkBox => 5

/-- A parent has one kind less above it. -/
theorem rank_of_parent?
    {kind parent : WidgetKind}
    (found : kind.parent? = some parent) :
    kind.rank = parent.rank + 1 := by
  cases kind <;> simp [parent?] at found <;> subst found <;> rfl

/-- A kind and all kinds above it, the nearest first. -/
def lineage (kind : WidgetKind) : List WidgetKind :=
  match _found : kind.parent? with
  | some parent => kind :: lineage parent
  | none => [kind]
termination_by kind.rank
decreasing_by
  have := rank_of_parent? _found
  omega

/-- Whether a kind is another one or below it. -/
def isA (kind other : WidgetKind) : Bool :=
  kind.lineage.contains other

/-- The capabilities that a kind adds to those of its parent. -/
def ownCapabilities : WidgetKind → List Capability
  | label => [.textBearing, .layout, .alignable]
  | image => [.layout, .alignable]
  | textField => [.textBearing, .layout, .alignable, .disableable]
  | progressBar => [.layout, .disableable, .rangeValued]
  | container => [.layout, .alignable, .padded]
  | scrollPane => [.layout]
  | stack => [.layout]
  | horizontalGroup => [.layout, .padded]
  | verticalGroup => [.layout, .padded]
  | table => [.layout, .alignable, .padded]
  | button => [.disableable, .toggleable]
  | textButton => [.textBearing]
  | window => [.titled]
  | _ => []

/-- All capabilities of a kind, in the order in which they are listed. -/
def capabilities (kind : WidgetKind) : List Capability :=
  Capability.union [] (kind.lineage.flatMap ownCapabilities)

/-- Whether a kind has a capability. -/
def has (kind : WidgetKind) (capability : Capability) : Bool :=
  kind.capabilities.contains capability

end WidgetKind

/-- What an attribute can be registered for. -/
inductive TargetKey where
  | kind (kind : WidgetKind)
  | capability (capability : Capability)
  /-- The listeners that listener tags make. -/
  | listener
deriving Repr, DecidableEq, Inhabited

namespace TargetKey

/-- A key as messages name it. -/
def name : TargetKey → String
  | .kind own => own.name
  | .capability own => own.name ++ " targets"
  | .listener => "listener"

end TargetKey

namespace WidgetKind

/--
The keys of a kind from the most to the least specific: the kinds from it to below the actor, its
capabilities, and the actor.
-/
def ancestry (kind : WidgetKind) : List TargetKey :=
  (kind.lineage.filter (· != actor)).map .kind ++ kind.capabilities.map .capability ++ [.kind actor]

end WidgetKind

end WidgetMarkup
