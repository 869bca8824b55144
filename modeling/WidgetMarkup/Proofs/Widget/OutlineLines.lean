import WidgetMarkup.Proofs.Text.LineFeeds
import WidgetMarkup.Proofs.Widget.Search
import WidgetMarkup.Run
import WidgetMarkup.Vocabulary.Standard

namespace WidgetMarkup

/-!
# Lines of outlines

An outline has one line for each widget, in pre-order and indented by two blanks for each level.
Texts and titles stand in it between quotes, so that they cannot break a line, but ids and names of
actions stand there as they are. If none of these has a line feed, then the lines of the outline are
those of the widgets, and the trees can be read back from them.
-/

-- The zero of a sum is that of core, also where a library has a zero of its own.
attribute [local instance (high)] Zero.ofOfNat0

namespace Widget

/-- The widgets of a tree in pre-order, with their levels if the root stands at the given one. -/
def preorder : Widget → Nat → List (Nat × Widget) :=
  fold fun widget inside level =>
    (level, widget) :: inside.flatMap fun widgets => widgets (level + 1)

/-- A widget stands before those inside it, which are one level further in. -/
theorem preorder_eq
    (widget : Widget)
    (level : Nat) :
    widget.preorder level =
      (level, widget) :: widget.children.flatMap fun child => child.preorder (level + 1) := by
  unfold preorder
  rw [fold_eq, List.flatMap_map]

/-- The pre-order of a tree has each of its widgets once. -/
theorem length_preorder
    (widget : Widget)
    (level : Nat) :
    (widget.preorder level).length = widget.count := by
  induction widget using induct generalizing level with
  | step widget inductionHypothesis =>
      have inside :
          widget.children.map (fun child => (child.preorder (level + 1)).length) =
            widget.children.map count :=
        List.map_congr_left fun child member => inductionHypothesis child member (level + 1)
      unfold count at inside ⊢
      rw [preorder_eq, fold_eq, List.length_cons, List.length_flatMap, Nat.add_comm]
      exact congrArg (1 + List.sum ·) inside

/-- What is inside a tree stands no further out than its root. -/
theorem le_of_mem_preorder
    {widget : Widget}
    {level : Nat}
    {entry : Nat × Widget}
    (member : entry ∈ widget.preorder level) :
    level ≤ entry.1 := by
  induction widget using induct generalizing level with
  | step widget inductionHypothesis =>
      rw [preorder_eq, List.mem_cons, List.mem_flatMap] at member
      obtain rfl | ⟨child, isChild, member⟩ := member
      · exact Nat.le_refl level
      · exact Nat.le_of_succ_le (inductionHypothesis child isChild member)

/-- The line of a widget at a level. -/
def lineAt (entry : Nat × Widget) : String :=
  indentation entry.1 ++ entry.2.outlineLine

/-- The lines of a tree are those of its widgets in pre-order. -/
theorem outlineLines_eq_map_preorder
    (widget : Widget)
    (level : Nat) :
    widget.outlineLines level = (widget.preorder level).map lineAt := by
  induction widget using induct generalizing level with
  | step widget inductionHypothesis =>
      unfold outlineLines at inductionHypothesis ⊢
      rw [fold_eq, preorder_eq, List.map_cons, List.flatMap_map, List.map_flatMap]
      refine congrArg (lineAt (level, widget) :: ·) ?_
      exact List.flatMap_congr fun child member => inductionHypothesis child member (level + 1)

/-- The names that stand in the line of a widget as they are. -/
def bareNames (widget : Widget) : List String :=
  widget.id.toList ++ widget.listeners.filterMap Listener.action

theorem lineFeeds_kind
    (kind : WidgetKind) :
    Text.lineFeeds kind.name = 0 := by
  cases kind <;> rfl

end Widget

/-- The name of an action is all that can break the part of a listener. -/
theorem Listener.lineFeeds_outline
    (listener : Listener) :
    Text.lineFeeds listener.outline = (listener.action.toList.map Text.lineFeeds).sum := by
  have noFeed : Text.lineFeeds (" on" ++ listener.event.name) = 0 := by
    cases listener.event <;> rfl
  rw [outline, Text.lineFeeds_append, noFeed]
  cases listener.action with
  | none =>
      rfl
  | some action =>
      simp [show Text.lineFeeds "=" = 0 from rfl]

theorem ValueRange.lineFeeds_outline
    (range : ValueRange) :
    Text.lineFeeds range.outline = 0 := by
  have noFeed (number : Float32) : Text.lineFeeds (Number.Single.render number) = 0 :=
    Number.lineFeeds_renderShortest _ _
  simp only [outline, Text.lineFeeds_append, noFeed]
  rfl

namespace Widget

theorem lineFeeds_optionalPart
    {α : Type}
    {write : α → String}
    (noFeed : ∀ value, Text.lineFeeds (write value) = 0)
    (part : Option α) :
    Text.lineFeeds (optionalPart write part) = 0 := by
  cases part with
  | none =>
      rfl
  | some value =>
      exact noFeed value

/-- A line has the line feeds of its bare names. -/
theorem lineFeeds_outlineLine
    (widget : Widget) :
    Text.lineFeeds widget.outlineLine = (widget.bareNames.map Text.lineFeeds).sum := by
  have ofId :
      Text.lineFeeds (optionalPart (fun id => "#" ++ id) widget.id) =
        (widget.id.toList.map Text.lineFeeds).sum := by
    cases widget.id with
    | none =>
        rfl
    | some id =>
        simp [optionalPart, show Text.lineFeeds "#" = 0 from rfl]
  have ofText :
      Text.lineFeeds (optionalPart (fun text => " " ++ Text.quote text) widget.text) = 0 :=
    lineFeeds_optionalPart (fun text => by simp [Text.lineFeeds_quote]; rfl) widget.text
  have ofTitle :
      Text.lineFeeds (optionalPart (fun title => " title=" ++ Text.quote title) widget.title) = 0 :=
    lineFeeds_optionalPart (fun title => by simp [Text.lineFeeds_quote]; rfl) widget.title
  have ofRange : Text.lineFeeds (optionalPart ValueRange.outline widget.range) = 0 :=
    lineFeeds_optionalPart ValueRange.lineFeeds_outline widget.range
  have ofListeners :
      Text.lineFeeds (String.join (widget.listeners.map Listener.outline)) =
        ((widget.listeners.filterMap Listener.action).map Text.lineFeeds).sum := by
    rw [Text.lineFeeds_join]
    induction widget.listeners with
    | nil =>
        rfl
    | cons listener others inductionHypothesis =>
        rw [List.map_cons, List.map_cons, List.sum_cons, inductionHypothesis,
          Listener.lineFeeds_outline]
        cases acts : listener.action <;> simp [acts]
  rw [outlineLine, bareNames, List.map_append, List.sum_append]
  simp only [Text.lineFeeds_append, lineFeeds_kind, ofId, ofText, ofTitle, ofRange, ofListeners]
  omega

end Widget

namespace Document

/-- The widgets of a document in pre-order, with their levels. -/
def preorder (document : Document) : List (Nat × Widget) :=
  document.roots.flatMap fun root => root.preorder 0

/-- The names that stand in the outline of a document as they are. -/
def bareNames (document : Document) : List String :=
  document.preorder.flatMap fun entry => entry.2.bareNames

theorem length_preorder
    (document : Document) :
    document.preorder.length = document.count := by
  unfold preorder count
  rw [List.length_flatMap]
  exact congrArg List.sum (List.map_congr_left fun root _ => root.length_preorder 0)

/-- The outline of a document is one line for each of its widgets. -/
theorem outline_eq_join
    (document : Document) :
    document.outline =
      String.join (document.preorder.map fun entry => Widget.lineAt entry ++ "\n") := by
  rw [← String.toList_inj, outline, preorder]
  simp only [String.toList_join, List.flatMap_map, List.map_flatMap, List.flatMap_assoc,
    Widget.outline, Widget.outlineLines_eq_map_preorder]

/-- Indentation breaks no line. -/
theorem lineFeeds_lineAt
    (entry : Nat × Widget) :
    Text.lineFeeds (Widget.lineAt entry) = (entry.2.bareNames.map Text.lineFeeds).sum := by
  have noFeed : Text.lineFeeds (Widget.indentation entry.1) = 0 := by
    rw [Text.lineFeeds_eq_zero_iff, Widget.indentation, String.toList_ofList]
    simp
  rw [Widget.lineAt, Text.lineFeeds_append, noFeed, Widget.lineFeeds_outlineLine, Nat.zero_add]

/-- An outline has a line feed for each widget and those of the bare names. -/
theorem lineFeeds_outline
    (document : Document) :
    Text.lineFeeds document.outline =
      document.count + (document.bareNames.map Text.lineFeeds).sum := by
  rw [outline_eq_join, Text.lineFeeds_join, ← length_preorder, bareNames]
  induction document.preorder with
  | nil =>
      rfl
  | cons entry others inductionHypothesis =>
      have ofLine :
          Text.lineFeeds (Widget.lineAt entry ++ "\n") =
            (entry.2.bareNames.map Text.lineFeeds).sum + 1 := by
        rw [Text.lineFeeds_append, lineFeeds_lineAt]
        rfl
      rw [List.map_cons, List.map_cons, List.sum_cons, inductionHypothesis, ofLine,
        List.flatMap_cons, List.map_append, List.sum_append, List.length_cons]
      omega

end Document

/-- A line of an outline, without its indentation, and what stands inside it. -/
inductive OutlineTree where
  | node (line : String) (inside : List OutlineTree)

namespace OutlineTree

/-- The trees that lines with levels show: what comes behind a line and further in is inside it. -/
def ofLines : List (Nat × String) → List OutlineTree
  | [] => []
  | (level, line) :: rest =>
      .node line (ofLines (rest.takeWhile fun below => level < below.1)) ::
        ofLines (rest.dropWhile fun below => level < below.1)
termination_by lines => lines.length
decreasing_by
  · exact Nat.lt_succ_of_le (List.takeWhile_sublist _).length_le
  · exact Nat.lt_succ_of_le (List.dropWhile_sublist _).length_le

/-- The level of a line, by the blanks that it begins with, and the rest of the line. -/
def readLine (line : List Char) : Nat × String :=
  ((line.takeWhile (· == ' ')).length / 2, String.ofList (line.dropWhile (· == ' ')))

/-- The trees that an outline shows. -/
def read (text : String) : List OutlineTree :=
  ofLines ((Text.splitCharacters (· == '\n') text.toList).dropLast.map readLine)

end OutlineTree

namespace Widget

/-- The lines of a tree, each with those of the widgets inside. -/
def outlineTree : Widget → OutlineTree :=
  fold fun widget inside => .node widget.outlineLine inside

theorem outlineTree_eq
    (widget : Widget) :
    widget.outlineTree = .node widget.outlineLine (widget.children.map outlineTree) :=
  fold_eq _ widget

/-- A widget at its level, as its line shows both. -/
def entryLine (entry : Nat × Widget) : Nat × String :=
  (entry.1, entry.2.outlineLine)

/-- If each of some widgets in a row is shown by its lines, then their lines show all of them. -/
theorem ofLines_flatMap_preorder
    {level : Nat}
    {widgets : List Widget}
    (areShown :
      ∀ widget ∈ widgets,
        ∀ rest : List (Nat × String),
          (∀ entry ∈ rest.head?, entry.1 ≤ level) →
            OutlineTree.ofLines ((widget.preorder level).map entryLine ++ rest) =
              widget.outlineTree :: OutlineTree.ofLines rest) :
    OutlineTree.ofLines ((widgets.flatMap fun widget => widget.preorder level).map entryLine) =
      widgets.map outlineTree := by
  induction widgets with
  | nil =>
      simp [OutlineTree.ofLines]
  | cons widget others inductionHypothesis =>
      rw [List.forall_mem_cons] at areShown
      rw [List.flatMap_cons, List.map_append, List.map_cons, areShown.1,
        inductionHypothesis areShown.2]
      cases others with
      | nil =>
          simp
      | cons next others =>
          simp [preorder_eq next, entryLine]

/-- The lines of a tree, in front of lines that are no further in than its root, show the tree. -/
theorem ofLines_preorder_append
    (widget : Widget)
    (level : Nat)
    (rest : List (Nat × String))
    (isOut : ∀ entry ∈ rest.head?, entry.1 ≤ level) :
    OutlineTree.ofLines ((widget.preorder level).map entryLine ++ rest) =
      widget.outlineTree :: OutlineTree.ofLines rest := by
  induction widget using induct generalizing level rest with
  | step widget inductionHypothesis =>
      have shown :=
        ofLines_flatMap_preorder fun child member => inductionHypothesis child member (level + 1)
      have areIn :
          ∀ entry ∈ (widget.children.flatMap fun child => child.preorder (level + 1)).map entryLine,
            decide (level < entry.1) = true := by
        simp only [List.forall_mem_map, List.mem_flatMap, decide_eq_true_eq]
        rintro entry ⟨child, -, member⟩
        exact le_of_mem_preorder member
      -- The lines inside end where the first line comes that is no further in than the root.
      have noneIn : rest.takeWhile (fun below => decide (level < below.1)) = [] := by
        cases rest with
        | nil =>
            rfl
        | cons first others =>
            exact List.takeWhile_cons_of_neg (by simpa using isOut)
      have allOut : rest.dropWhile (fun below => decide (level < below.1)) = rest := by
        cases rest with
        | nil =>
            rfl
        | cons first others =>
            exact List.dropWhile_cons_of_neg (by simpa using isOut)
      rw [preorder_eq, List.map_cons, List.cons_append, entryLine, OutlineTree.ofLines,
        List.takeWhile_append_of_pos areIn, List.dropWhile_append_of_pos areIn, noneIn, allOut,
        List.append_nil, shown, ← outlineTree_eq]

/-- A line begins with the name of a kind and so with no blank. -/
theorem exists_outlineLine
    (widget : Widget) :
    ∃ first rest, widget.outlineLine.toList = first :: rest ∧ ¬ (first == ' ') = true := by
  have named :
      ∃ first rest, widget.kind.name.toList = first :: rest ∧ ¬ (first == ' ') = true := by
    cases widget.kind <;> exact ⟨_, _, rfl, by decide⟩
  obtain ⟨first, rest, isName, notBlank⟩ := named
  simp only [outlineLine, String.toList_append, isName, List.cons_append]
  exact ⟨_, _, rfl, notBlank⟩

/-- What is read from the line of a widget is its level and the rest of the line. -/
theorem readLine_lineAt
    (entry : Nat × Widget) :
    OutlineTree.readLine (lineAt entry).toList = entryLine entry := by
  obtain ⟨first, rest, shape, notBlank⟩ := exists_outlineLine entry.2
  have areBlank :
      ∀ character ∈ List.replicate (2 * entry.1) ' ', (character == ' ') = true := by
    intro character isThere
    exact beq_of_eq (List.eq_of_mem_replicate isThere)
  unfold OutlineTree.readLine lineAt indentation
  rw [String.toList_append, String.toList_ofList, List.takeWhile_append_of_pos areBlank,
    List.dropWhile_append_of_pos areBlank, shape, List.takeWhile_cons, List.dropWhile_cons,
    if_neg notBlank, if_neg notBlank, ← shape, List.append_nil, List.length_replicate,
    String.ofList_toList, Nat.mul_div_cancel_left _ (by decide)]
  rfl

end Widget

namespace Document

/-- If no bare name has a line feed, then the outline is cut into the lines of the widgets. -/
theorem splitCharacters_outline
    {document : Document}
    (plain : ∀ name ∈ document.bareNames, '\n' ∉ name.toList) :
    Text.splitCharacters (· == '\n') document.outline.toList =
      (document.preorder.map fun entry => (Widget.lineAt entry).toList) ++ [[]] := by
  have areLines :
      ∀ line ∈ document.preorder.map fun entry => (Widget.lineAt entry).toList, '\n' ∉ line := by
    rw [List.forall_mem_map]
    intro entry member
    rw [← Text.lineFeeds_eq_zero_iff, lineFeeds_lineAt, List.sum_eq_zero_iff_forall_eq_nat,
      List.forall_mem_map]
    intro name isName
    exact Text.lineFeeds_eq_zero_iff.mpr (plain name (List.mem_flatMap.mpr ⟨entry, member, isName⟩))
  rw [← Text.splitCharacters_lines areLines, outline_eq_join, String.toList_join, List.flatMap_map,
    List.flatMap_map]
  simp only [String.toList_append]
  rfl

/-- An outline without line feeds in its bare names shows the trees of the document. -/
theorem read_outline
    {document : Document}
    (plain : ∀ name ∈ document.bareNames, '\n' ∉ name.toList) :
    OutlineTree.read document.outline = document.roots.map Widget.outlineTree := by
  have lines :
      (document.preorder.map fun entry => (Widget.lineAt entry).toList).map OutlineTree.readLine =
        document.preorder.map Widget.entryLine := by
    rw [List.map_map]
    exact List.map_congr_left fun entry _ => Widget.readLine_lineAt entry
  rw [OutlineTree.read, splitCharacters_outline plain, List.dropLast_concat, lines]
  exact Widget.ofLines_flatMap_preorder fun root _ => root.ofLines_preorder_append 0

/--
The outline of a document is one line for each of its widgets, in pre-order and indented by two
blanks for each level, with a line feed behind each. It has no other line feeds exactly if no id and
no name of an action has one. Then it is cut into the lines of the widgets, and the trees are read
back from it.
-/
theorem lines_of_outline
    (document : Document) :
    document.outline =
      String.join (document.preorder.map fun (level, widget) =>
        Widget.indentation level ++ widget.outlineLine ++ "\n") ∧
    document.preorder.length = document.count ∧
    (Text.lineFeeds document.outline = document.count ↔
      ∀ name ∈ document.bareNames, '\n' ∉ name.toList) ∧
    ((∀ name ∈ document.bareNames, '\n' ∉ name.toList) →
      Text.splitCharacters (· == '\n') document.outline.toList =
        (document.preorder.map fun (level, widget) =>
          (Widget.indentation level ++ widget.outlineLine).toList) ++ [[]] ∧
      OutlineTree.read document.outline = document.roots.map Widget.outlineTree) := by
  refine ⟨outline_eq_join document, length_preorder document, ?_, fun plain => ?_⟩
  · rw [lineFeeds_outline, Nat.add_eq_left, List.sum_eq_zero_iff_forall_eq_nat, List.forall_mem_map]
    exact forall₂_congr fun name _ => Text.lineFeeds_eq_zero_iff
  · exact ⟨splitCharacters_outline plain, read_outline plain⟩

/-- A label in a group with an id, and the trees that are read from their outline. -/
theorem lines_of_outline_group :
    let label := Widget.label "hi"
    let group := { Widget.ofKind .group with id := some "a", content := .children [label] }
    let document : Document := { roots := [group], ids := ["a"] }
    document.bareNames = ["a"] ∧
      document.outline = "group#a\n  label \x22hi\x22\n" ∧
        OutlineTree.read document.outline = [.node "group#a" [.node "label \x22hi\x22" []]] := by
  intro label group document
  have names : document.bareNames = ["a"] := by decide +kernel
  have plain : ∀ name ∈ document.bareNames, '\n' ∉ name.toList := by
    rw [names]
    decide
  refine ⟨names, by decide +kernel, ?_⟩
  have ofLabel : label.outlineTree = .node "label \x22hi\x22" [] := by
    rw [Widget.outlineTree_eq, show label.outlineLine = "label \x22hi\x22" by decide +kernel]
    rfl
  have ofGroup : group.outlineTree = .node "group#a" [label.outlineTree] := by
    rw [Widget.outlineTree_eq, show group.outlineLine = "group#a" by decide +kernel]
    rfl
  obtain ⟨-, -, -, shown⟩ := lines_of_outline document
  rw [(shown plain).2, List.map_singleton, ofGroup, ofLabel]

end Document

/--
A label whose id has a line feed and a pair of labels have the same outline, so that neither the
number of widgets nor their trees can be read from it.
-/
theorem Interpreter.outline_of_brokenId :
    let interpreter : Interpreter := { vocabulary := .standard }
    let summary (source : String) : Option (Nat × String) :=
      (interpreter.parse source).result.toOption.map fun document =>
        (document.count, document.outline)
    summary "<label id=\"a&#10;label\"/>" = some (1, "label#a\nlabel\n") ∧
      summary "<label id=\"a\"/><label/>" = some (2, "label#a\nlabel\n") := by
  decide +kernel

end WidgetMarkup
