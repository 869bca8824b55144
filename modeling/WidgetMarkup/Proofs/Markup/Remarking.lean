import WidgetMarkup.Proofs.Markup.Substitution

namespace WidgetMarkup.Markup

/-!
# Forests that differ in macro marks

The same names, attributes and texts in the same places, but some tags are marked as macros in one
forest and not in the other. Only tags of certain names may differ in this way; if no marker for
content has such a name, content stands in place of the same tags in both forests.
-/

namespace Node

mutual

/-- Whether a node is another one but for marks, here and inside, on names that are free to have
them or not. -/
inductive IsRemarking (free : String → Prop) : Node → Node → Prop where
  | node
      {name : String}
      {isMacro isMacro' : Bool}
      {attributes : List Attribute}
      {children children' : List Node}
      {text : String}
      {position : Position}
      (marks : isMacro = isMacro' ∨ free name)
      (inside : AreRemarkings free children children') :
      IsRemarking free ⟨name, isMacro, attributes, children, text, position⟩
        ⟨name, isMacro', attributes, children', text, position⟩

/-- Whether the nodes of a forest are those of another one but for marks. -/
inductive AreRemarkings (free : String → Prop) : List Node → List Node → Prop where
  | nil : AreRemarkings free [] []
  | cons
      {node node' : Node}
      {rest rest' : List Node}
      (first : IsRemarking free node node')
      (others : AreRemarkings free rest rest') :
      AreRemarkings free (node :: rest) (node' :: rest')

end

variable {free : String → Prop}

namespace IsRemarking

variable {node node' : Node}

theorem name
    (remarked : IsRemarking free node node') :
    node.name = node'.name := by
  cases remarked
  rfl

theorem isMacro
    (remarked : IsRemarking free node node') :
    node.isMacro = node'.isMacro ∨ free node.name := by
  cases remarked with
  | node marks =>
      exact marks

theorem attributes
    (remarked : IsRemarking free node node') :
    node.attributes = node'.attributes := by
  cases remarked
  rfl

theorem text
    (remarked : IsRemarking free node node') :
    node.text = node'.text := by
  cases remarked
  rfl

theorem position
    (remarked : IsRemarking free node node') :
    node.position = node'.position := by
  cases remarked
  rfl

theorem children
    (remarked : IsRemarking free node node') :
    AreRemarkings free node.children node'.children := by
  cases remarked with
  | node _ inside =>
      exact inside

theorem attribute?
    (remarked : IsRemarking free node node')
    (name : String) :
    node.attribute? name = node'.attribute? name :=
  congrArg (Attribute.lookup? name) remarked.attributes

theorem hasText
    (remarked : IsRemarking free node node') :
    node.hasText = node'.hasText :=
  congrArg (!Text.isBlankText ·) remarked.text

/-- What stands for content in one forest does so in the other, if no name that is free means it. -/
theorem isMarkerNamed
    (remarked : IsRemarking free node node')
    {marker : String}
    (spared : ∀ name, free name → Text.sameName name marker = false) :
    node.isMarkerNamed marker = node'.isMarkerNamed marker := by
  unfold Node.isMarkerNamed
  rw [← remarked.name]
  rcases remarked.isMacro with same | isFree
  · rw [same]
  · rw [spared _ isFree, Bool.and_false, Bool.and_false]

end IsRemarking

mutual

theorem IsRemarking.refl :
    ∀ node : Node, IsRemarking free node node
  | ⟨_, _, _, children, _, _⟩ => .node (.inl rfl) (AreRemarkings.refl children)

theorem AreRemarkings.refl :
    ∀ nodes : List Node, AreRemarkings free nodes nodes
  | [] => .nil
  | node :: rest => .cons (IsRemarking.refl node) (AreRemarkings.refl rest)

end

mutual

/-- Where no name is free, nothing can differ. -/
theorem IsRemarking.eq
    (noneFree : ∀ name, ¬free name) :
    ∀ {node node' : Node}, IsRemarking free node node' → node = node'
  | _, _, .node (.inl rfl) inside => by
      rw [AreRemarkings.eq noneFree inside]
  | _, _, .node (.inr isFree) _ => absurd isFree (noneFree _)

theorem AreRemarkings.eq
    (noneFree : ∀ name, ¬free name) :
    ∀ {nodes nodes' : List Node}, AreRemarkings free nodes nodes' → nodes = nodes'
  | _, _, .nil => rfl
  | _, _, .cons first others => by
      rw [IsRemarking.eq noneFree first, AreRemarkings.eq noneFree others]

end

theorem AreRemarkings.length_eq
    {nodes nodes' : List Node}
    (remarked : AreRemarkings free nodes nodes') :
    nodes.length = nodes'.length := by
  induction nodes generalizing nodes' with
  | nil =>
      cases remarked
      rfl
  | cons node rest inductionHypothesis =>
      cases remarked with
      | cons _ others =>
          exact congrArg (· + 1) (inductionHypothesis others)

theorem AreRemarkings.append
    {nodes nodes' others others' : List Node}
    (first : AreRemarkings free nodes nodes')
    (second : AreRemarkings free others others') :
    AreRemarkings free (nodes ++ others) (nodes' ++ others') := by
  induction nodes generalizing nodes' with
  | nil =>
      cases first
      exact second
  | cons node rest inductionHypothesis =>
      cases first with
      | cons isRemarking rest =>
          exact .cons isRemarking (inductionHypothesis rest)

section Markers

variable {inner : String → Prop} {marker : String} {content content' : List Node}

mutual

theorem IsRemarking.replaceInside
    (spared : ∀ name, inner name → Text.sameName name marker = false)
    (fewer : ∀ name, inner name → free name)
    (contents : AreRemarkings free content content') :
    ∀ {node node' : Node},
      IsRemarking inner node node' →
        IsRemarking free (replaceInside marker content node) (replaceInside marker content' node')
  | _, _, .node marks inside =>
      .node (marks.imp_right (fewer _)) (AreRemarkings.replaceMarkers spared fewer contents inside)

/-- Content stands in place of the same tags whatever the marks are, if no name that is free around
it means a marker. -/
theorem AreRemarkings.replaceMarkers
    (spared : ∀ name, inner name → Text.sameName name marker = false)
    (fewer : ∀ name, inner name → free name)
    (contents : AreRemarkings free content content') :
    ∀ {nodes nodes' : List Node},
      AreRemarkings inner nodes nodes' →
        AreRemarkings free (replaceMarkers marker content nodes)
          (replaceMarkers marker content' nodes')
  | _, _, .nil => .nil
  | _, _, .cons first others => by
      have others := AreRemarkings.replaceMarkers spared fewer contents others
      rw [Node.replaceMarkers, Node.replaceMarkers, first.isMarkerNamed spared]
      split
      · exact contents.append others
      · exact .cons (IsRemarking.replaceInside spared fewer contents first) others

end

end Markers

end Node

end WidgetMarkup.Markup
