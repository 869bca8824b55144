import WidgetMarkup.Markup.Node

namespace WidgetMarkup.Markup

/-!
# Content in place of markers

A forest in which content stands in place of markers is made of the content as it is and of nodes of
the forest itself, inside which markers are replaced in the same way.
-/

namespace Node

/-- Whether a node stands in a forest, at any depth. -/
inductive IsWithin (nodes : List Node) : Node → Prop where
  | root {node}
      (listed : node ∈ nodes) :
      IsWithin nodes node
  | inside {parent node}
      (isWithin : IsWithin nodes parent)
      (listed : node ∈ parent.children) :
      IsWithin nodes node

namespace IsWithin

variable {node : Node} {nodes : List Node}

/-- What stands in some of the nodes stands in all of them. -/
theorem mono
    {some : List Node}
    (isWithin : IsWithin some node)
    (subset : ∀ root ∈ some, root ∈ nodes) :
    IsWithin nodes node := by
  induction isWithin with
  | root listed =>
      exact .root (subset _ listed)
  | inside _ listed inductionHypothesis =>
      exact .inside inductionHypothesis listed

/-- What stands inside what stands in a forest stands in the forest. -/
theorem deeper
    {parent : Node}
    (isWithin : IsWithin nodes parent)
    (isInside : IsWithin parent.children node) :
    IsWithin nodes node := by
  induction isInside with
  | root isChild =>
      exact .inside isWithin isChild
  | inside _ isChild inductionHypothesis =>
      exact .inside inductionHypothesis isChild

/-- What stands inside a node stands where the node does. -/
theorem ofChildren
    {parent : Node}
    (isWithin : IsWithin parent.children node)
    (listed : parent ∈ nodes) :
    IsWithin nodes node :=
  deeper (.root listed) isWithin

/-- Nothing stands in an empty forest. -/
theorem not_nil :
    ¬IsWithin [] node := by
  intro isWithin
  induction isWithin with
  | root listed =>
      cases listed
  | inside _ _ inductionHypothesis =>
      exact inductionHypothesis

/-- What stands in two forests together stands in one of them. -/
theorem of_append
    {later : List Node}
    (isWithin : IsWithin (nodes ++ later) node) :
    IsWithin nodes node ∨ IsWithin later node := by
  induction isWithin with
  | root listed =>
      exact (List.mem_append.1 listed).imp .root .root
  | inside _ listed inductionHypothesis =>
      exact inductionHypothesis.imp (.inside · listed) (.inside · listed)

/-- What stands in a single tree is its root or stands inside it. -/
theorem of_singleton
    {root : Node}
    (isWithin : IsWithin [root] node) :
    node = root ∨ IsWithin root.children node := by
  induction isWithin with
  | root listed =>
      exact .inl (List.mem_singleton.1 listed)
  | inside _ listed inductionHypothesis =>
      rcases inductionHypothesis with rfl | isInside
      · exact .inr (.root listed)
      · exact .inr (.inside isInside listed)

/-- What stands in a forest is one of its roots or stands directly below them. -/
theorem root_or_inside
    (isWithin : IsWithin nodes node) :
    node ∈ nodes ∨ IsWithin (nodes.flatMap children) node := by
  induction isWithin with
  | root listed =>
      exact .inl listed
  | inside _ listed inductionHypothesis =>
      rcases inductionHypothesis with isRoot | isInside
      · exact .inr (.root (List.mem_flatMap.2 ⟨_, isRoot, listed⟩))
      · exact .inr (.inside isInside listed)

end IsWithin

variable (marker : String) (content : List Node)

@[simp] theorem name_replaceInside
    (node : Node) :
    (replaceInside marker content node).name = node.name := by
  cases node
  rfl

@[simp] theorem isMacro_replaceInside
    (node : Node) :
    (replaceInside marker content node).isMacro = node.isMacro := by
  cases node
  rfl

@[simp] theorem children_replaceInside
    (node : Node) :
    (replaceInside marker content node).children =
      replaceMarkers marker content node.children := by
  cases node
  rfl

/-- A node of the forest itself, inside which content stands in place of markers. -/
def IsOwn (nodes : List Node) (node : Node) : Prop :=
  ∃ own,
    IsWithin nodes own ∧ own.isMarkerNamed marker = false ∧
      node = replaceInside marker content own

/-- The roots are those of the content and those of the forest that are no markers. -/
theorem mem_replaceMarkers
    {nodes : List Node}
    {node : Node}
    (member : node ∈ replaceMarkers marker content nodes) :
    node ∈ content ∨
      ∃ own ∈ nodes,
        own.isMarkerNamed marker = false ∧ node = replaceInside marker content own := by
  induction nodes with
  | nil =>
      cases member
  | cons first rest inductionHypothesis =>
      have later (member : node ∈ replaceMarkers marker content rest) :
          node ∈ content ∨
            ∃ own ∈ first :: rest,
              own.isMarkerNamed marker = false ∧ node = replaceInside marker content own := by
        rcases inductionHypothesis member with passed | ⟨own, listed, isOwn⟩
        · exact .inl passed
        · exact .inr ⟨own, .tail _ listed, isOwn⟩
      rw [replaceMarkers] at member
      split at member
      · rcases List.mem_append.1 member with passed | member
        · exact .inl passed
        · exact later member
      · rename_i isMarker
        rcases List.mem_cons.1 member with same | member
        · exact .inr ⟨first, List.mem_cons_self .., by simpa using isMarker, same⟩
        · exact later member

/-- A node at any depth stands in the content or is one of the forest itself. -/
theorem IsWithin.of_replaceMarkers
    {nodes : List Node}
    {node : Node}
    (isWithin : IsWithin (replaceMarkers marker content nodes) node) :
    IsOwn marker content nodes node ∨ IsWithin content node := by
  induction isWithin with
  | root listed =>
      rcases mem_replaceMarkers marker content listed with passed | ⟨own, listed, isOwn⟩
      · exact .inr (.root passed)
      · exact .inl ⟨own, .root listed, isOwn⟩
  | inside _ listed inductionHypothesis =>
      rcases inductionHypothesis with ⟨parent, isParent, _, rfl⟩ | passed
      · rw [children_replaceInside] at listed
        rcases mem_replaceMarkers marker content listed with passed | ⟨own, isChild, isOwn⟩
        · exact .inr (.root passed)
        · exact .inl ⟨own, .inside isParent isChild, isOwn⟩
      · exact .inr (.inside passed listed)

end Node

end WidgetMarkup.Markup
