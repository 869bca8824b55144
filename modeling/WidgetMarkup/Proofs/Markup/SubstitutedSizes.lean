import WidgetMarkup.Proofs.Markup.Substitution

namespace WidgetMarkup.Markup

/-!
# The size of content in place of markers

A forest in which content stands in place of markers has the nodes that are left of it without any
content, and those of the content once for each marker.
-/

namespace Node

mutual

/-- The number of times that content is put in inside a node. -/
def countInside (marker : String) : Node → Nat
  | ⟨_, _, _, children, _, _⟩ => countMarkers marker children

/-- The number of times that content is put in a forest: that of its markers, without those inside
of other markers. -/
def countMarkers (marker : String) : List Node → Nat
  | [] => 0
  | node :: rest =>
      if node.isMarkerNamed marker then
        1 + countMarkers marker rest
      else
        countInside marker node + countMarkers marker rest

end

/-- A node of a forest is no larger than the forest. -/
theorem size_le_sizeAll
    {nodes : List Node}
    {node : Node}
    (listed : node ∈ nodes) :
    node.size ≤ sizeAll nodes := by
  obtain ⟨earlier, later, rfl⟩ := List.mem_iff_append.1 listed
  rw [sizeAll_append, sizeAll]
  omega

/-- What stands in a forest is no larger than the forest. -/
theorem IsWithin.size_le
    {nodes : List Node}
    {node : Node}
    (isWithin : IsWithin nodes node) :
    node.size ≤ sizeAll nodes := by
  induction isWithin with
  | root listed =>
      exact size_le_sizeAll listed
  | inside _ listed inductionHypothesis =>
      have fits := size_le_sizeAll listed
      rw [size_eq] at inductionHypothesis
      omega

section Markers

variable (marker : String) (content : List Node)

mutual

theorem size_replaceInside :
    ∀ node,
      (replaceInside marker content node).size =
        (replaceInside marker [] node).size + countInside marker node * sizeAll content
  | ⟨_, _, _, children, _, _⟩ => by
      rw [replaceInside, replaceInside, size, size, countInside, sizeAll_replaceMarkers children,
        Nat.add_assoc]

/-- A forest with content in place of markers has its own nodes and those of the content once for
each marker. -/
theorem sizeAll_replaceMarkers :
    ∀ nodes,
      sizeAll (replaceMarkers marker content nodes) =
        sizeAll (replaceMarkers marker [] nodes) + countMarkers marker nodes * sizeAll content
  | [] => by
      simp only [replaceMarkers, sizeAll, countMarkers, Nat.zero_mul]
  | node :: rest => by
      have others := sizeAll_replaceMarkers rest
      rw [replaceMarkers, replaceMarkers, countMarkers]
      split
      · rw [sizeAll_append, sizeAll_append, sizeAll, Nat.add_mul, Nat.one_mul]
        omega
      · rw [sizeAll, sizeAll, size_replaceInside node, Nat.add_mul]
        omega

end

mutual

theorem size_replaceInside_le :
    ∀ node, (replaceInside marker [] node).size ≤ node.size
  | ⟨_, _, _, children, _, _⟩ => by
      rw [replaceInside, size, size]
      exact Nat.add_le_add_left (sizeAll_replaceMarkers_le children) 1

/-- A forest without its markers has no more nodes than with them. -/
theorem sizeAll_replaceMarkers_le :
    ∀ nodes, sizeAll (replaceMarkers marker [] nodes) ≤ sizeAll nodes
  | [] => Nat.le_refl _
  | node :: rest => by
      have others := sizeAll_replaceMarkers_le rest
      have first := size_replaceInside_le node
      rw [replaceMarkers]
      split
      · rw [List.nil_append, sizeAll]
        omega
      · rw [sizeAll, sizeAll]
        omega

end

mutual

theorem replaceInside_eq_self :
    ∀ node, countInside marker node = 0 → replaceInside marker content node = node
  | ⟨_, _, _, children, _, _⟩, noMarkers => by
      rw [replaceInside, replaceMarkers_eq_self children noMarkers]

/-- A forest without markers stays as it is. -/
theorem replaceMarkers_eq_self :
    ∀ nodes, countMarkers marker nodes = 0 → replaceMarkers marker content nodes = nodes
  | [], _ => rfl
  | node :: rest, noMarkers => by
      rw [countMarkers] at noMarkers
      rw [replaceMarkers]
      split at noMarkers
      · omega
      · rename_i noMarker
        rw [if_neg noMarker, replaceInside_eq_self node (by omega),
          replaceMarkers_eq_self rest (by omega)]

end

end Markers

end Node

end WidgetMarkup.Markup
