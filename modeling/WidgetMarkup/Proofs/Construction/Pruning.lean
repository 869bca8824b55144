import WidgetMarkup.Construction.Build

namespace WidgetMarkup

open Markup

/-!
# Forests without unknown names

What a vocabulary knows of a forest: the tags that it does not know are cut off with everything
inside them, and the attributes that it does not know are taken away. Nothing else of a tag depends
on these attributes.
-/

namespace Vocabulary

/-- Whether the name of an attribute is registered anywhere. -/
def knowsAttribute (vocabulary : Vocabulary) (name : String) : Bool :=
  vocabulary.attributes.contains name || vocabulary.building.contains name ||
    vocabulary.cells.contains name

/-- Whether a node is unmarked and its name is no registered tag. -/
def isUnknownTag (vocabulary : Vocabulary) (node : Node) : Bool :=
  !node.isMacro && (vocabulary.tag? node.name).isNone

mutual

/-- The node without unknown names on it and inside it. -/
def pruneInside (vocabulary : Vocabulary) : Node → Node
  | ⟨name, isMacro, attributes, children, text, position⟩ =>
      { name, isMacro, text, position
        attributes := attributes.filter fun entry => vocabulary.knowsAttribute entry.name
        children := vocabulary.prune children }

/-- The forest without unknown tags, everything inside them, and unknown attributes. -/
def prune (vocabulary : Vocabulary) : List Node → List Node
  | [] => []
  | node :: rest =>
      if vocabulary.isUnknownTag node then
        vocabulary.prune rest
      else
        vocabulary.pruneInside node :: vocabulary.prune rest

end

section Attributes

variable {vocabulary : Vocabulary}

@[simp] theorem pruneInside_name
    (node : Node) :
    (vocabulary.pruneInside node).name = node.name := by
  cases node
  rw [pruneInside]

@[simp] theorem pruneInside_isMacro
    (node : Node) :
    (vocabulary.pruneInside node).isMacro = node.isMacro := by
  cases node
  rw [pruneInside]

@[simp] theorem pruneInside_attributes
    (node : Node) :
    (vocabulary.pruneInside node).attributes =
      node.attributes.filter fun entry => vocabulary.knowsAttribute entry.name := by
  cases node
  rw [pruneInside]

@[simp] theorem pruneInside_children
    (node : Node) :
    (vocabulary.pruneInside node).children = vocabulary.prune node.children := by
  cases node
  rw [pruneInside]

@[simp] theorem pruneInside_text
    (node : Node) :
    (vocabulary.pruneInside node).text = node.text := by
  cases node
  rw [pruneInside]

/-- Whether a name is known does not depend on its spelling. -/
theorem knowsAttribute_congr
    {name other : String}
    (same : Text.sameName name other = true) :
    vocabulary.knowsAttribute name = vocabulary.knowsAttribute other := by
  unfold knowsAttribute NameTable.contains NameTable.find?
  rw [Text.sameName_iff.1 same]

/-- Exactly the names that are registered nowhere are unknown to every target. -/
theorem resolve_eq_unknown_iff
    {ancestry : List TargetKey}
    {name : String} :
    vocabulary.resolve ancestry name = .unknown ↔ vocabulary.knowsAttribute name = false := by
  unfold resolve knowsAttribute
  rw [show vocabulary.attributes.contains name = (vocabulary.attributes.find? name).isSome from rfl]
  cases vocabulary.attributes.find? name with
  | some rules =>
      simp only [Option.isSome_some, Bool.true_or, Bool.true_eq_false, iff_false]
      split <;> exact nofun
  | none =>
      simp only [Option.isSome_none, Bool.false_or]
      split <;> rename_i isKnown
      · simp only [isKnown, reduceCtorEq]
      · simp only [Bool.not_eq_true] at isKnown
        simp only [isKnown]

theorem knowsAttribute_of_building?
    {name : String}
    {features : List Feature}
    {rule : BuildingRule}
    (found : vocabulary.building? name features = some rule) :
    vocabulary.knowsAttribute name = true := by
  unfold knowsAttribute NameTable.contains
  cases isFound : vocabulary.building.find? name with
  | some rules =>
      simp only [Option.isSome_some, Bool.or_true, Bool.true_or]
  | none =>
      simp only [building?, isFound] at found
      obtain ⟨feature, _, found⟩ := List.exists_of_findSome?_eq_some found
      cases found

theorem knowsAttribute_of_cell?
    {name : String}
    {rule : CellRule}
    (found : vocabulary.cell? name = some rule) :
    vocabulary.knowsAttribute name = true := by
  unfold cell? at found
  unfold knowsAttribute NameTable.contains
  simp only [found, Option.isSome_some, Bool.or_true]

/-- Unknown attributes go to the target, and taking them away changes nothing else. -/
theorem ofAttributes_filter
    (features : List Feature)
    (inTable : Bool)
    (attributes : List Attribute) :
    SplitAttributes.ofAttributes vocabulary features inTable
        (attributes.filter fun entry => vocabulary.knowsAttribute entry.name) =
      let split := SplitAttributes.ofAttributes vocabulary features inTable attributes
      { split with
        target := split.target.filter fun entry => vocabulary.knowsAttribute entry.name } := by
  induction attributes with
  | nil =>
      rfl
  | cons first rest inductionHypothesis =>
      cases isKnown : vocabulary.knowsAttribute first.name with
      | true =>
          rw [List.filter_cons, if_pos isKnown, SplitAttributes.ofAttributes,
            SplitAttributes.ofAttributes, inductionHypothesis]
          dsimp only
          split
          · rfl
          · split
            · rfl
            · rw [List.filter_cons, if_pos isKnown]
      | false =>
          have noBuilding : vocabulary.building? first.name features = none := by
            cases found : vocabulary.building? first.name features with
            | none =>
                rfl
            | some rule =>
                cases isKnown.symm.trans (knowsAttribute_of_building? found)
          have noCell : vocabulary.cell? first.name = none := by
            cases found : vocabulary.cell? first.name with
            | none =>
                rfl
            | some rule =>
                cases isKnown.symm.trans (knowsAttribute_of_cell? found)
          have isUnknown : ¬ vocabulary.knowsAttribute first.name = true := by
            rw [isKnown]
            exact Bool.false_ne_true
          rw [List.filter_cons, if_neg isUnknown, inductionHypothesis,
            SplitAttributes.ofAttributes, noBuilding, noCell, ite_self]
          dsimp only
          rw [List.filter_cons, if_neg isUnknown]

/-- The value under a name that is known is kept. -/
theorem attribute?_pruneInside
    {name : String}
    (isKnown : vocabulary.knowsAttribute name = true)
    (node : Node) :
    (vocabulary.pruneInside node).attribute? name = node.attribute? name := by
  unfold Node.attribute? Attribute.lookup?
  rw [pruneInside_attributes, List.find?_filter]
  congr 2
  funext entry
  cases named : entry.isNamed name with
  | true =>
      simp [knowsAttribute_congr named, isKnown]
  | false =>
      simp

end Attributes

end Vocabulary

end WidgetMarkup
