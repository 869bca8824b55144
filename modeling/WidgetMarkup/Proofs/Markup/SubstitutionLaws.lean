import WidgetMarkup.Proofs.Markup.SubstitutedSizes

namespace WidgetMarkup.Markup.Node

/-!
# Laws of substitution

Markers are replaced in content that has been put in as they are in the content alone, so that one
replacement after another is a replacement by replaced content. The nodes that are outside of
markers are kept with the nodes around them, and the content is put in once for each marker that
stands in no other marker.
-/

section Lineages

mutual

/-- The lineages of what stands inside a node. -/
def lineagesInside : List Node → Node → List (List Node)
  | above, ⟨name, isMacro, attributes, children, text, position⟩ =>
      lineages (⟨name, isMacro, attributes, children, text, position⟩ :: above) children

/--
The nodes of a forest in pre-order, each in front of the nodes that it stands inside of, the
innermost first.
-/
def lineages : List Node → List Node → List (List Node)
  | _, [] => []
  | above, node :: rest => (node :: above) :: (lineagesInside above node ++ lineages above rest)

end

/-- Whether the node in front of a lineage is no marker and stands inside of none. -/
def isOutside (marker : String) (lineage : List Node) : Bool :=
  lineage.all fun node => !node.isMarkerNamed marker

/-- Whether the node in front of a lineage is a marker and stands inside of no other. -/
def isOutermost (marker : String) : List Node → Bool
  | [] => false
  | node :: above => node.isMarkerNamed marker && isOutside marker above

theorem lineagesInside_eq
    (above : List Node)
    (node : Node) :
    lineagesInside above node = lineages (node :: above) node.children := by
  cases node
  rw [lineagesInside]

theorem lineages_append
    (above first second : List Node) :
    lineages above (first ++ second) = lineages above first ++ lineages above second := by
  induction first with
  | nil =>
      rw [List.nil_append, lineages, List.nil_append]
  | cons node rest inductionHypothesis =>
      rw [List.cons_append, lineages, lineages, inductionHypothesis, List.cons_append,
        List.append_assoc]

mutual

theorem suffix_of_mem_lineagesInside
    {lineage : List Node} :
    ∀ (above : List Node) (node : Node),
      lineage ∈ lineagesInside above node → node :: above <:+ lineage.tail
  | above, ⟨name, isMacro, attributes, children, text, position⟩, member => by
      rw [lineagesInside] at member
      exact suffix_of_mem_lineages _ children member

/-- What stands around a forest stands around each of its nodes. -/
theorem suffix_of_mem_lineages
    {lineage : List Node} :
    ∀ (above nodes : List Node),
      lineage ∈ lineages above nodes → above <:+ lineage.tail
  | _, [], member => by
      rw [lineages] at member
      cases member
  | above, node :: rest, member => by
      rw [lineages, List.mem_cons, List.mem_append] at member
      obtain rfl | isInside | isLater := member
      · exact List.suffix_refl above
      · exact (List.suffix_cons node above).trans (suffix_of_mem_lineagesInside above node isInside)
      · exact suffix_of_mem_lineages above rest isLater

end

mutual

theorem length_lineagesInside :
    ∀ (above : List Node) (node : Node),
      (lineagesInside above node).length + 1 = node.size
  | above, ⟨name, isMacro, attributes, children, text, position⟩ => by
      rw [lineagesInside, length_lineages, size, Nat.add_comm]

/-- Every node has one lineage. -/
theorem length_lineages :
    ∀ above nodes : List Node, (lineages above nodes).length = sizeAll nodes
  | _, [] => by
      rw [lineages, sizeAll, List.length_nil]
  | above, node :: rest => by
      have inside := length_lineagesInside above node
      have later := length_lineages above rest
      rw [lineages, sizeAll, List.length_cons, List.length_append]
      omega

end

end Lineages

section Markers

variable {marker : String} {content : List Node}

@[simp] theorem isMarkerNamed_replaceInside
    (node : Node) :
    (replaceInside marker content node).isMarkerNamed marker = node.isMarkerNamed marker := by
  rw [isMarkerNamed, isMarkerNamed, name_replaceInside, isMacro_replaceInside]

theorem replaceMarkers_append
    (first second : List Node) :
    replaceMarkers marker content (first ++ second) =
      replaceMarkers marker content first ++ replaceMarkers marker content second := by
  induction first with
  | nil =>
      rfl
  | cons node rest inductionHypothesis =>
      rw [List.cons_append, replaceMarkers, replaceMarkers, inductionHypothesis]
      split
      · rw [List.append_assoc]
      · rw [List.cons_append]

mutual

theorem replaceInside_replaceInside
    (marker : String)
    (content later : List Node) :
    ∀ node,
      replaceInside marker later (replaceInside marker content node) =
        replaceInside marker (replaceMarkers marker later content) node
  | ⟨_, _, _, children, _, _⟩ => by
      simp only [replaceInside, replaceMarkers_replaceMarkers marker content later children]

/-- What is put in can be searched before or after. -/
theorem replaceMarkers_replaceMarkers
    (marker : String)
    (content later : List Node) :
    ∀ nodes,
      replaceMarkers marker later (replaceMarkers marker content nodes) =
        replaceMarkers marker (replaceMarkers marker later content) nodes
  | [] => rfl
  | node :: rest => by
      have others := replaceMarkers_replaceMarkers marker content later rest
      rw [replaceMarkers.eq_2 marker content, replaceMarkers.eq_2 marker (replaceMarkers _ _ _)]
      split
      · rw [replaceMarkers_append, others]
      · rename_i noMarker
        rw [replaceMarkers, isMarkerNamed_replaceInside, if_neg noMarker,
          replaceInside_replaceInside marker content later node, others]

end

/-- Markers in content that has been put in are those of the content. -/
theorem not_isMarkerNamed_of_isWithin
    {nodes : List Node}
    (noneInContent : ∀ node, IsWithin content node → node.isMarkerNamed marker = false)
    {node : Node}
    (isWithin : IsWithin (replaceMarkers marker content nodes) node) :
    node.isMarkerNamed marker = false := by
  obtain ⟨own, -, noMarker, rfl⟩ | isInContent := isWithin.of_replaceMarkers
  · rwa [isMarkerNamed_replaceInside]
  · exact noneInContent node isInContent

mutual

theorem countInside_eq_zero :
    ∀ node : Node,
      (∀ inner, IsWithin node.children inner → inner.isMarkerNamed marker = false) →
        countInside marker node = 0
  | ⟨_, _, _, children, _, _⟩, noneInside =>
      countMarkers_eq_zero children noneInside

theorem countMarkers_eq_zero :
    ∀ nodes : List Node,
      (∀ node, IsWithin nodes node → node.isMarkerNamed marker = false) →
        countMarkers marker nodes = 0
  | [], _ => rfl
  | node :: rest, noneWithin => by
      have noMarker := noneWithin node (.root List.mem_cons_self)
      have inside :=
        countInside_eq_zero node fun inner isInside =>
          noneWithin inner (isInside.ofChildren List.mem_cons_self)
      have later :=
        countMarkers_eq_zero rest fun inner isLater =>
          noneWithin inner (isLater.mono fun _ => List.mem_cons_of_mem node)
      rw [countMarkers, if_neg (by rw [noMarker]; exact Bool.false_ne_true), inside, later]

end

theorem isOutside_cons
    (node : Node)
    (above : List Node) :
    isOutside marker (node :: above) = (!node.isMarkerNamed marker && isOutside marker above) :=
  List.all_cons

theorem isOutside_eq_false_of_suffix
    {above lineage : List Node}
    (notOutside : isOutside marker above = false)
    (around : above <:+ lineage) :
    isOutside marker lineage = false := by
  rw [isOutside, List.all_eq_false] at notOutside ⊢
  obtain ⟨node, isAbove, isMarker⟩ := notOutside
  exact ⟨node, around.subset isAbove, isMarker⟩

/-- Nothing that stands inside of a marker is outside of markers or an outermost one. -/
theorem isOutside_eq_false_of_mem
    {above lineage : List Node}
    {node : Node}
    (isMarker : node.isMarkerNamed marker = true)
    (member : lineage ∈ lineagesInside above node) :
    isOutside marker lineage = false ∧ isOutermost marker lineage = false := by
  have notOutside : isOutside marker (node :: above) = false := by
    rw [isOutside_cons, isMarker]
    rfl
  have around := suffix_of_mem_lineagesInside above node member
  cases lineage with
  | nil =>
      cases List.suffix_nil.mp around
  | cons last between =>
      have notBetween : isOutside marker between = false :=
        isOutside_eq_false_of_suffix notOutside around
      rw [isOutside_cons, isOutermost, notBetween, Bool.and_false, Bool.and_false]
      exact ⟨rfl, rfl⟩

mutual

theorem size_replaceInside_eq
    (marker : String)
    (content : List Node) :
    ∀ (above : List Node) (node : Node),
      isOutside marker (node :: above) = true →
        (replaceInside marker content node).size =
          1 + ((lineagesInside above node).countP (isOutside marker) +
            (lineagesInside above node).countP (isOutermost marker) * sizeAll content)
  | above, ⟨name, isMacro, attributes, children, text, position⟩, outside => by
      rw [replaceInside, size, lineagesInside,
        sizeAll_replaceMarkers_eq marker content _ children outside]

/-- The nodes of a replacement are those outside of markers and those of the content for each
marker that stands in no other. -/
theorem sizeAll_replaceMarkers_eq
    (marker : String)
    (content : List Node) :
    ∀ above nodes : List Node,
      isOutside marker above = true →
        sizeAll (replaceMarkers marker content nodes) =
          (lineages above nodes).countP (isOutside marker) +
            (lineages above nodes).countP (isOutermost marker) * sizeAll content
  | above, [], _ => by
      rw [replaceMarkers, lineages, sizeAll, List.countP_nil, List.countP_nil, Nat.zero_mul]
  | above, node :: rest, outside => by
      have later := sizeAll_replaceMarkers_eq marker content above rest outside
      rw [replaceMarkers, lineages, List.countP_cons, List.countP_cons, List.countP_append,
        List.countP_append, isOutside_cons, isOutermost, outside, Bool.and_true, Bool.and_true]
      cases isMarker : node.isMarkerNamed marker with
      | true =>
          have noneInside (lineage : List Node) (member : lineage ∈ lineagesInside above node) :=
            isOutside_eq_false_of_mem isMarker member
          have noneOutside : (lineagesInside above node).countP (isOutside marker) = 0 :=
            List.countP_eq_zero.mpr fun lineage member => by simp [noneInside lineage member]
          have noneOutermost : (lineagesInside above node).countP (isOutermost marker) = 0 :=
            List.countP_eq_zero.mpr fun lineage member => by simp [noneInside lineage member]
          rw [if_pos rfl, if_pos rfl, if_neg (by decide), sizeAll_append, later, noneOutside,
            noneOutermost]
          simp only [Nat.add_mul, Nat.zero_mul, Nat.one_mul]
          omega
      | false =>
          have isOutsideHere : isOutside marker (node :: above) = true := by
            rw [isOutside_cons, isMarker, outside]
            rfl
          rw [if_neg Bool.false_ne_true, if_neg Bool.false_ne_true, if_pos (by decide), sizeAll,
            size_replaceInside_eq marker content above node isOutsideHere, later]
          simp only [Nat.add_mul, Nat.zero_mul]
          omega

end

mutual

theorem sublist_lineagesInside
    (marker : String)
    (content : List Node) :
    ∀ (above : List Node) (node : Node),
      isOutside marker (node :: above) = true →
        (((lineagesInside above node).filter (isOutside marker)).map
            (List.map (replaceInside marker content))).Sublist
          (lineagesInside (above.map (replaceInside marker content))
            (replaceInside marker content node))
  | above, ⟨name, isMacro, attributes, children, text, position⟩, outside => by
      have inside := sublist_lineages marker content _ children outside
      rwa [lineagesInside, lineagesInside_eq, children_replaceInside]

/-- The nodes outside of markers are kept in their order, each with those around it. -/
theorem sublist_lineages
    (marker : String)
    (content : List Node) :
    ∀ above nodes : List Node,
      isOutside marker above = true →
        (((lineages above nodes).filter (isOutside marker)).map
            (List.map (replaceInside marker content))).Sublist
          (lineages (above.map (replaceInside marker content))
            (replaceMarkers marker content nodes))
  | above, [], _ => by
      rw [lineages, List.filter_nil, List.map_nil]
      exact List.nil_sublist _
  | above, node :: rest, outside => by
      have later := sublist_lineages marker content above rest outside
      have isOutsideHere : isOutside marker (node :: above) = !node.isMarkerNamed marker := by
        rw [isOutside_cons, outside, Bool.and_true]
      rw [lineages, replaceMarkers, List.filter_cons, List.filter_append, isOutsideHere]
      cases isMarker : node.isMarkerNamed marker with
      | true =>
          have noneInside : (lineagesInside above node).filter (isOutside marker) = [] := by
            rw [List.filter_eq_nil_iff]
            intro lineage member
            simp [isOutside_eq_false_of_mem isMarker member]
          rw [if_pos rfl, if_neg (by decide), noneInside, List.nil_append, lineages_append]
          exact later.trans (List.sublist_append_right _ _)
      | false =>
          rw [isMarker] at isOutsideHere
          have inside := sublist_lineagesInside marker content above node isOutsideHere
          rw [if_neg Bool.false_ne_true, if_pos (by decide), lineages, List.map_cons, List.map_cons,
            List.map_append]
          exact (inside.append later).cons_cons _

end

/--
Replacing markers in what has been put together is putting in content in which they have been
replaced. Content without markers leaves none, so that a further replacement changes nothing. The
result has the nodes that are outside of markers and those of the content once for each outermost
marker, and a node that is not marked as a macro is kept wherever it stands outside of markers,
whatever its name.
-/
theorem substitution_laws
    (marker : String)
    (nodes content later : List Node) :
    replaceMarkers marker later (replaceMarkers marker content nodes) =
      replaceMarkers marker (replaceMarkers marker later content) nodes ∧
    ((∀ node, IsWithin content node → node.isMarkerNamed marker = false) →
      (∀ node, IsWithin (replaceMarkers marker content nodes) node →
        node.isMarkerNamed marker = false) ∧
      replaceMarkers marker later (replaceMarkers marker content nodes) =
        replaceMarkers marker content nodes) ∧
    sizeAll (replaceMarkers marker content nodes) =
      (lineages [] nodes).countP (isOutside marker) +
        (lineages [] nodes).countP (isOutermost marker) * sizeAll content ∧
    ∀ node above,
      node :: above ∈ lineages [] nodes →
        node.isMacro = false →
          isOutside marker above = true →
            (node :: above).map (replaceInside marker content) ∈
              lineages [] (replaceMarkers marker content nodes) := by
  refine ⟨replaceMarkers_replaceMarkers marker content later nodes, fun noneInContent => ?_,
    sizeAll_replaceMarkers_eq marker content [] nodes rfl, ?_⟩
  · have noneInResult :
        ∀ node, IsWithin (replaceMarkers marker content nodes) node →
          node.isMarkerNamed marker = false :=
      fun node => not_isMarkerNamed_of_isWithin noneInContent
    exact ⟨noneInResult,
      replaceMarkers_eq_self marker later _ (countMarkers_eq_zero _ noneInResult)⟩
  · intro node above member notMacro outside
    have isKept : isOutside marker (node :: above) = true := by
      rw [isOutside_cons, outside, isMarkerNamed, notMacro]
      rfl
    exact (sublist_lineages marker content [] nodes rfl).subset
      (List.mem_map_of_mem (List.mem_filter.mpr ⟨member, isKept⟩))

end Markers

/-- A marker with something inside of it, beside a node that only has the name of a marker. -/
theorem substitution_laws_group :
    let unmarked : Node := { name := "content" }
    let marker : Node := { name := "Content", isMacro := true, children := [unmarked] }
    let nodes : List Node := [{ name := "group", children := [marker, unmarked] }]
    let content : List Node := [{ name := "label" }, { name := "image" }]
    replaceMarkers "content" [] (replaceMarkers "content" content nodes) =
        replaceMarkers "content" content nodes ∧
      sizeAll (replaceMarkers "content" content nodes) = 4 ∧
        ∃ above, unmarked :: above ∈ lineages [] (replaceMarkers "content" content nodes) := by
  intro unmarked marker nodes content
  have noneAmongRoots : ∀ node ∈ content, node.isMarkerNamed "content" = false := by
    decide +kernel
  have noneInContent (node : Node) (isWithin : IsWithin content node) :
      node.isMarkerNamed "content" = false := by
    obtain isRoot | isInside := isWithin.root_or_inside
    · exact noneAmongRoots node isRoot
    · exact absurd isInside IsWithin.not_nil
  have sameName : Text.sameName "Content" "content" = true :=
    Text.sameName_iff_toList.mpr (by decide)
  have counted :
      (lineages [] nodes).countP (isOutside "content") = 2 ∧
        (lineages [] nodes).countP (isOutermost "content") = 1 := by
    simp [nodes, marker, unmarked, lineages, lineagesInside, isOutside, isOutermost, isMarkerNamed,
      sameName]
  obtain ⟨-, ofUnmarked, sizes, areKept⟩ := substitution_laws "content" nodes content []
  rw [counted.1, counted.2] at sizes
  have isListed : unmarked :: nodes ∈ lineages [] nodes := .tail _ (.tail _ (.tail _ (.head _)))
  have isKept := areKept unmarked nodes isListed rfl (by decide +kernel)
  exact ⟨(ofUnmarked noneInContent).2, sizes, nodes.map (replaceInside "content" content), isKept⟩

end WidgetMarkup.Markup.Node
