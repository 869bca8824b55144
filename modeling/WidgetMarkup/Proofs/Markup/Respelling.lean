import Mathlib.Data.List.Forall2
import WidgetMarkup.Markup.Node

namespace WidgetMarkup

open Markup

/-!
# Names in another spelling

Two forests that differ in the letter case of names: of the names of all tags, and of the names of
attributes on those tags that are neither marked nor without a meaning. The same attributes are
present in both, and content stands in place of the same markers.
-/

namespace Markup

namespace Attribute

/-- Whether an attribute is another one but for the spelling of its name, if that is free. -/
structure IsRespelling (free : Bool) (entry entry' : Attribute) : Prop where
  value : entry.value = entry'.value
  name : entry.name = entry'.name ∨ free = true ∧ Text.sameName entry.name entry'.name = true

/-- Whether attributes are others, one by one, but for the spelling of their names. -/
abbrev AreRespellings (free : Bool) (entries entries' : List Attribute) : Prop :=
  List.Forall₂ (IsRespelling free) entries entries'

theorem IsRespelling.foldCase
    {free : Bool}
    {entry entry' : Attribute}
    (isRespelling : IsRespelling free entry entry') :
    Text.foldCase entry.name = Text.foldCase entry'.name := by
  rcases isRespelling.name with same | ⟨_, same⟩
  · rw [same]
  · exact Text.sameName_iff.1 same

theorem IsRespelling.isNamed
    {free : Bool}
    {entry entry' : Attribute}
    (isRespelling : IsRespelling free entry entry')
    (name : String) :
    entry.isNamed name = entry'.isNamed name := by
  unfold Attribute.isNamed Text.sameName
  rw [isRespelling.foldCase]

namespace AreRespellings

variable {free : Bool} {entries entries' : List Attribute}

theorem refl
    (free : Bool)
    (entries : List Attribute) :
    AreRespellings free entries entries :=
  List.forall₂_same.2 fun _ _ => ⟨rfl, .inl rfl⟩

/-- Attributes whose spelling is not free are the same. -/
theorem eq
    (areRespellings : AreRespellings false entries entries') :
    entries = entries' := by
  refine List.forall₂_eq_eq_eq ▸ areRespellings.imp fun entry entry' isRespelling => ?_
  obtain ⟨sameValue, sameName | ⟨⟨⟩, _⟩⟩ := isRespelling
  cases entry
  cases entry'
  congr

theorem append
    {others others' : List Attribute}
    (first : AreRespellings free entries entries')
    (second : AreRespellings free others others') :
    AreRespellings free (entries ++ others) (entries' ++ others') :=
  List.rel_append first second

theorem isPresent_eq
    (areRespellings : AreRespellings free entries entries')
    (name : String) :
    isPresent name entries = isPresent name entries' := by
  unfold isPresent
  induction areRespellings with
  | nil =>
      rfl
  | cons first _ inductionHypothesis =>
      rw [List.any_cons, List.any_cons, first.isNamed, inductionHypothesis]

end AreRespellings

end Attribute

namespace Node

mutual

/--
Whether a node is another one but for the spelling of names: of all tags, and of the attributes of
tags that are unmarked and have a name with a meaning.
-/
inductive IsRespelling (isTag : String → Bool) : Node → Node → Prop where
  | node
      {name name' : String}
      {isMacro : Bool}
      {attributes attributes' : List Attribute}
      {children children' : List Node}
      {text : String}
      {position : Position}
      (named : Text.sameName name name' = true)
      (respelled :
        Attribute.AreRespellings (!isMacro && isTag name) attributes attributes')
      (inside : AreRespellings isTag children children') :
      IsRespelling isTag ⟨name, isMacro, attributes, children, text, position⟩
        ⟨name', isMacro, attributes', children', text, position⟩

/-- Whether the nodes of a forest are those of another one but for the spelling of names. -/
inductive AreRespellings (isTag : String → Bool) : List Node → List Node → Prop where
  | nil : AreRespellings isTag [] []
  | cons
      {node node' : Node}
      {rest rest' : List Node}
      (first : IsRespelling isTag node node')
      (others : AreRespellings isTag rest rest') :
      AreRespellings isTag (node :: rest) (node' :: rest')

end

variable {isTag : String → Bool}

namespace IsRespelling

variable {node node' : Node}

theorem foldCase
    (isRespelling : IsRespelling isTag node node') :
    Text.foldCase node.name = Text.foldCase node'.name := by
  cases isRespelling with
  | node named =>
      exact Text.sameName_iff.1 named

theorem isMacro
    (isRespelling : IsRespelling isTag node node') :
    node.isMacro = node'.isMacro := by
  cases isRespelling
  rfl

theorem attributes
    (isRespelling : IsRespelling isTag node node') :
    Attribute.AreRespellings (!node.isMacro && isTag node.name) node.attributes
      node'.attributes := by
  cases isRespelling with
  | node _ attributes =>
      exact attributes

/-- A node whose attributes are not free in their spelling has the same attributes. -/
theorem attributes_eq
    (isRespelling : IsRespelling isTag node node')
    (fixed : (!node.isMacro && isTag node.name) = false) :
    node.attributes = node'.attributes :=
  Attribute.AreRespellings.eq (fixed ▸ isRespelling.attributes)

theorem text
    (isRespelling : IsRespelling isTag node node') :
    node.text = node'.text := by
  cases isRespelling
  rfl

theorem hasText
    (isRespelling : IsRespelling isTag node node') :
    node.hasText = node'.hasText := by
  cases isRespelling
  rfl

theorem children
    (isRespelling : IsRespelling isTag node node') :
    AreRespellings isTag node.children node'.children := by
  cases isRespelling with
  | node _ _ children =>
      exact children

theorem isMarkerNamed
    (isRespelling : IsRespelling isTag node node')
    (marker : String) :
    node.isMarkerNamed marker = node'.isMarkerNamed marker := by
  unfold Node.isMarkerNamed Text.sameName
  rw [isRespelling.isMacro, isRespelling.foldCase]

end IsRespelling

mutual

theorem IsRespelling.refl :
    ∀ node : Node, IsRespelling isTag node node
  | ⟨_, _, attributes, children, _, _⟩ =>
      .node (Text.sameName_self _) (.refl _ attributes) (AreRespellings.refl children)

theorem AreRespellings.refl :
    ∀ nodes : List Node, AreRespellings isTag nodes nodes
  | [] => .nil
  | node :: rest => .cons (IsRespelling.refl node) (AreRespellings.refl rest)

end

namespace AreRespellings

variable {nodes nodes' others others' : List Node}

theorem append
    (first : AreRespellings isTag nodes nodes')
    (second : AreRespellings isTag others others') :
    AreRespellings isTag (nodes ++ others) (nodes' ++ others') := by
  induction nodes generalizing nodes' with
  | nil =>
      cases first
      exact second
  | cons node rest inductionHypothesis =>
      cases first with
      | cons isRespelling rest =>
          exact .cons isRespelling (inductionHypothesis rest)

theorem of_flatten_concat
    {expanded expanded' : List (List Node)}
    (before : AreRespellings isTag expanded.reverse.flatten expanded'.reverse.flatten)
    (last : AreRespellings isTag nodes nodes') :
    AreRespellings isTag (nodes :: expanded).reverse.flatten
      (nodes' :: expanded').reverse.flatten := by
  rw [List.reverse_cons, List.reverse_cons, List.flatten_concat, List.flatten_concat]
  exact before.append last

end AreRespellings

section Markers

variable {marker : String} {content content' : List Node}

mutual

theorem IsRespelling.replaceInside
    (contents : AreRespellings isTag content content') :
    ∀ {node node' : Node},
      IsRespelling isTag node node' →
        IsRespelling isTag (replaceInside marker content node)
          (replaceInside marker content' node')
  | _, _, .node named attributes children =>
      .node named attributes (AreRespellings.replaceMarkers contents children)

/-- Content in another spelling stands in place of the same markers. -/
theorem AreRespellings.replaceMarkers
    (contents : AreRespellings isTag content content') :
    ∀ {nodes nodes' : List Node},
      AreRespellings isTag nodes nodes' →
        AreRespellings isTag (replaceMarkers marker content nodes)
          (replaceMarkers marker content' nodes')
  | _, _, .nil => .nil
  | _, _, .cons first others => by
      rw [Node.replaceMarkers, Node.replaceMarkers, first.isMarkerNamed]
      split
      · exact contents.append (AreRespellings.replaceMarkers contents others)
      · exact .cons (IsRespelling.replaceInside contents first)
          (AreRespellings.replaceMarkers contents others)

end

end Markers

end Node

end Markup

end WidgetMarkup
