import WidgetMarkup.Proofs.Vocabulary.ListedAttributes
import WidgetMarkup.Proofs.Widget.Sketch

namespace WidgetMarkup

open Markup

/-!
# What forests plan

The structure of a document can be read off its nodes: each node makes a widget of the kind that it
names, or a listener for the widget around it. What a forest plans is said here by recursion on the
forest alone, with no word about the ways in which tags are built.
-/

variable {β : Type}

/-- What is kept of a target and of everything inside it. -/
inductive TargetSketch (β : Type) where
  | widget (sketch : Sketch β)
  | listener (listener : Listener)
deriving Repr

namespace TargetSketch

/-- The sketch of the widget that a target is. -/
def widget? : TargetSketch β → Option (Sketch β)
  | .widget sketch => some sketch
  | .listener _ => none

/-- The listener that a target is. -/
def listener? : TargetSketch β → Option Listener
  | .widget _ => none
  | .listener made => some made

/-- The listeners before the first widget. -/
def leadingListeners : List (TargetSketch β) → List Listener
  | .listener made :: rest => made :: leadingListeners rest
  | _ => []

/-- The roots among what a forest makes: a widget takes in the listeners up to the next one. -/
def gatherRoots : List (TargetSketch β) → List (Sketch β)
  | [] => []
  | .listener _ :: rest => gatherRoots rest
  | .widget sketch :: rest => sketch.extend (leadingListeners rest) [] :: gatherRoots rest

theorem leadingListeners_append_widget
    (made : List (TargetSketch β))
    (sketch : Sketch β) :
    leadingListeners (made ++ [.widget sketch]) = leadingListeners made := by
  induction made with
  | nil =>
      rfl
  | cons first rest inductionHypothesis =>
      cases first with
      | widget =>
          rfl
      | listener own =>
          exact congrArg (own :: ·) inductionHypothesis

/-- A widget stands behind the roots before it. -/
theorem gatherRoots_append_widget
    (made : List (TargetSketch β))
    (sketch : Sketch β) :
    gatherRoots (made ++ [.widget sketch]) = gatherRoots made ++ [sketch] := by
  induction made with
  | nil =>
      exact congrArg ([·]) sketch.extend_nil
  | cons first rest inductionHypothesis =>
      cases first with
      | listener =>
          exact inductionHypothesis
      | widget =>
          rw [List.cons_append, gatherRoots, leadingListeners_append_widget, inductionHypothesis]
          rfl

/-- A listener leads if no widget stands before it. -/
theorem leadingListeners_append_listener
    (made : List (TargetSketch β))
    (listener : Listener) :
    leadingListeners (made ++ [.listener listener]) =
      leadingListeners made ++ if (gatherRoots made).isEmpty then [listener] else [] := by
  induction made with
  | nil =>
      rfl
  | cons first rest inductionHypothesis =>
      cases first with
      | widget =>
          rfl
      | listener own =>
          exact congrArg (own :: ·) inductionHypothesis

theorem gatherRoots_append_of_eq_nil
    {made : List (TargetSketch β)}
    (noRoots : gatherRoots made = [])
    (others : List (TargetSketch β)) :
    gatherRoots (made ++ others) = gatherRoots others := by
  induction made with
  | nil =>
      rfl
  | cons first rest inductionHypothesis =>
      cases first with
      | listener =>
          exact inductionHypothesis noRoots
      | widget =>
          cases noRoots

/-- A listener among the roots is taken in by the last of them. -/
theorem gatherRoots_append_listener
    {made : List (TargetSketch β)}
    {before : List (Sketch β)}
    {last : Sketch β}
    (gathered : gatherRoots made = before ++ [last])
    (listener : Listener) :
    gatherRoots (made ++ [.listener listener]) = before ++ [last.extend [listener] []] := by
  induction made generalizing before with
  | nil =>
      cases before <;> cases gathered
  | cons first rest inductionHypothesis =>
      cases first with
      | listener =>
          exact inductionHypothesis gathered
      | widget sketch =>
          rw [gatherRoots] at gathered
          rw [List.cons_append, gatherRoots, leadingListeners_append_listener]
          cases before with
          | nil =>
              obtain ⟨rfl, noRoots⟩ := List.cons.inj gathered
              rw [gatherRoots_append_of_eq_nil noRoots, noRoots, List.nil_append,
                Sketch.extend_extend]
              rfl
          | cons head others =>
              obtain ⟨rfl, inRest⟩ := List.cons.inj gathered
              have isOther : (gatherRoots rest).isEmpty = false := by
                simp [inRest]
              rw [inductionHypothesis inRest, isOther, if_neg Bool.false_ne_true, List.append_nil]
              rfl

/-- The roots that are gathered are all widgets of a forest, whatever listeners they take in. -/
theorem countAll_gatherRoots
    (made : List (TargetSketch β)) :
    Sketch.countAll (gatherRoots made) = Sketch.countAll (made.filterMap widget?) := by
  induction made with
  | nil =>
      rfl
  | cons first rest inductionHypothesis =>
      cases first with
      | listener =>
          exact inductionHypothesis
      | widget sketch =>
          have isWidget : (TargetSketch.widget sketch).widget? = some sketch := rfl
          rw [gatherRoots, List.filterMap_cons_some isWidget, Sketch.countAll, Sketch.countAll,
            inductionHypothesis, Sketch.count_eq, Sketch.count_eq sketch, Sketch.extend,
            List.append_nil]

end TargetSketch

/-- The sketch of a target. -/
def Target.sketch (look : Option String → β) : Target → TargetSketch β
  | .widget made => .widget (made.sketch look)
  | .listener made => .listener made

namespace ListenerEvent

/-- The names of the tags that make a listener for an event. -/
def tagNames : ListenerEvent → List String
  | click => ["onClick", "clickListener"]
  | change => ["onChange", "changeListener"]
  | shown => []

/-- The event for which the tags of a name make listeners. -/
def ofTag? (name : String) : Option ListenerEvent :=
  all.find? fun event => Declaration.lists event.tagNames name

end ListenerEvent

/-- The kind of which the tags of a name make widgets. -/
def WidgetKind.ofTag? (name : String) : Option WidgetKind :=
  all.find? fun kind => Text.sameName kind.name name

section TagNames

variable {name other : String}

theorem ListenerEvent.ofTag?_congr
    (same : Text.sameName name other = true) :
    ofTag? name = ofTag? other := by
  unfold ofTag?
  simp only [Declaration.lists_congr same]

theorem WidgetKind.ofTag?_congr
    (same : Text.sameName name other = true) :
    ofTag? name = ofTag? other := by
  unfold ofTag? Text.sameName
  rw [Text.sameName_iff.1 same]

/-- The tags that are named for a kind make widgets of the kind. -/
theorem WidgetKind.ofTag?_name
    (kind : WidgetKind) :
    ofTag? kind.name = some kind := by
  have isKnown : kind ∈ all := by
    cases kind <;> decide
  have distinct : (all.map fun kind => Text.foldCase kind.name).Nodup := by
    decide +kernel
  cases found : ofTag? kind.name with
  | none =>
      exact absurd (Text.sameName_self kind.name) (List.find?_eq_none.1 found kind isKnown)
  | some other =>
      have same := List.find?_some found
      have isOther : other = kind :=
        List.inj_on_of_nodup_map distinct (List.mem_of_find?_eq_some found) isKnown
          (Text.sameName_iff.1 same)
      rw [isOther]

/-- The tags that are named for an event make listeners for it, and no widgets. -/
theorem ListenerEvent.ofTag?_tagNames
    (event : ListenerEvent) :
    ∀ name ∈ event.tagNames, WidgetKind.ofTag? name = none ∧ ofTag? name = some event := by
  cases event <;> decide +kernel

/-- The tags of kinds make no listeners. -/
theorem ListenerEvent.ofTag?_of_kind
    {kind : WidgetKind}
    (named : WidgetKind.ofTag? name = some kind) :
    ofTag? name = none := by
  cases found : ofTag? name with
  | none =>
      rfl
  | some event =>
      have listed := List.find?_some found
      obtain ⟨other, isName, same⟩ := List.any_eq_true.1 listed
      have noKind := (event.ofTag?_tagNames other isName).1
      rw [WidgetKind.ofTag?_congr same, named] at noKind
      cases noKind

end TagNames

/-- A tag of the language makes widgets of the kind that it names, or else listeners. -/
theorem Vocabulary.ofTag?_of_tag?_standard
    {name : String}
    {rule : TagRule}
    (found : standard.tag? name = some rule) :
    (∃ kind, WidgetKind.ofTag? name = some kind ∧ rule = .ofKind kind) ∨
      ∃ event,
        WidgetKind.ofTag? name = none ∧ ListenerEvent.ofTag? name = some event ∧
          rule = .ofEvent event := by
  obtain ⟨entry, listed, named, rfl⟩ := exists_of_tag?_standard found
  obtain ⟨other, isName, same⟩ := List.any_eq_true.1 named
  rw [← WidgetKind.ofTag?_congr same, ← ListenerEvent.ofTag?_congr same]
  simp only [standardTags, List.mem_append, List.mem_map, List.mem_cons, List.mem_nil_iff,
    or_false] at listed
  rcases listed with ⟨kind, _, rfl⟩ | rfl | rfl
  · cases List.mem_singleton.1 isName
    exact .inl ⟨kind, kind.ofTag?_name, rfl⟩
  · obtain ⟨noKind, isClick⟩ := ListenerEvent.ofTag?_tagNames .click other isName
    exact .inr ⟨.click, noKind, isClick, rfl⟩
  · obtain ⟨noKind, isChange⟩ := ListenerEvent.ofTag?_tagNames .change other isName
    exact .inr ⟨.change, noKind, isChange, rfl⟩

namespace Markup

/-- The listener that an attribute adds to a widget. -/
def Attribute.listener? (entry : Attribute) : Option Listener :=
  (ListenerEvent.ofAttribute? entry.name).map fun event =>
    { event, action := some (Actions.bareName entry.value) }

/-- The text that an attribute gives to a widget that bears text. -/
def Attribute.text? (entry : Attribute) : Option String :=
  if Declaration.lists ["text", "value"] entry.name then some entry.value else none

namespace Node

/-- The text of a widget that a node makes: that of its last attribute for it, or else the text
inside, and none if its kind bears none. -/
def ownText (node : Node) (kind : WidgetKind) : Option String :=
  if kind.has .textBearing then
    (node.attributes.reverse.findSome? Attribute.text?).or
      (if node.hasText then some node.text else none)
  else
    none

/-- The texts of the labels that a node puts into its widget: none if the text is the widget's
own. -/
def labelTexts (node : Node) (kind : WidgetKind) : List String :=
  if node.hasText && !kind.has .textBearing then kind.shape.labelTexts node.text else []

/-- The sketch of the widget that a node makes, before those inside the node are taken in. -/
def begunWidget (look : Option String → β) (node : Node) (kind : WidgetKind) : Sketch β where
  kind := kind
  shape := kind.shape
  text := look (node.ownText kind)
  listeners := node.attributes.filterMap Attribute.listener?
  children := (node.labelTexts kind).map (Sketch.label look)

/-- The listener that a node makes, before it is checked: its action may be given by the text. -/
def begunListener (separator : Char) (node : Node) (event : ListenerEvent) : Listener :=
  let written :=
    node.attributes.foldl
      (fun listener entry => listener.written separator entry.name entry.value)
      { event }
  if node.hasText then
    { written with action := written.action.or (some (Text.trim node.text)) }
  else
    written

mutual

/--
What a node makes. A widget has behind what it is begun with the listeners and the widgets of the
nodes inside, each group in its order; inside a listener there is nothing.
-/
def plan? (look : Option String → β) (separator : Char) : Node → Option (TargetSketch β)
  | ⟨name, isMacro, attributes, children, text, position⟩ => do
      let node : Node := ⟨name, isMacro, attributes, children, text, position⟩
      let inside ← planAll? look separator children
      match WidgetKind.ofTag? name, ListenerEvent.ofTag? name with
      | some kind, _ =>
          let listeners := inside.filterMap TargetSketch.listener?
          let widgets := inside.filterMap TargetSketch.widget?
          some (.widget ((node.begunWidget look kind).extend listeners widgets))
      | none, some event =>
          if inside.isEmpty then
            let begun := node.begunListener separator event
            some (.listener { begun with action := begun.action.map Actions.bareName })
          else
            none
      | none, none => none

/-- What the nodes of a forest make, in their order. -/
def planAll? (look : Option String → β) (separator : Char) :
    List Node → Option (List (TargetSketch β))
  | [] => some []
  | node :: rest => do
      let first ← node.plan? look separator
      let others ← planAll? look separator rest
      some (first :: others)

end

theorem plan?_eq
    (look : Option String → β)
    (separator : Char)
    (node : Node) :
    node.plan? look separator =
      (planAll? look separator node.children).bind fun inside =>
        match WidgetKind.ofTag? node.name, ListenerEvent.ofTag? node.name with
        | some kind, _ =>
            let listeners := inside.filterMap TargetSketch.listener?
            let widgets := inside.filterMap TargetSketch.widget?
            some (.widget ((node.begunWidget look kind).extend listeners widgets))
        | none, some event =>
            if inside.isEmpty then
              let begun := node.begunListener separator event
              some (.listener { begun with action := begun.action.map Actions.bareName })
            else
              none
        | none, none => none := by
  cases node
  rw [plan?]
  rfl

theorem planAll?_append
    {look : Option String → β}
    {separator : Char}
    {nodes : List Node}
    {node : Node}
    {made : List (TargetSketch β)}
    {last : TargetSketch β}
    (planned : planAll? look separator nodes = some made)
    (planLast : node.plan? look separator = some last) :
    planAll? look separator (nodes ++ [node]) = some (made ++ [last]) := by
  induction nodes generalizing made with
  | nil =>
      cases planned
      rw [List.nil_append, planAll?, planLast]
      rfl
  | cons first rest inductionHypothesis =>
      rw [planAll?] at planned
      obtain ⟨sketch, isFirst, planned⟩ := Option.bind_eq_some_iff.1 planned
      obtain ⟨others, isRest, planned⟩ := Option.bind_eq_some_iff.1 planned
      cases planned
      rw [List.cons_append, planAll?, isFirst, inductionHypothesis isRest]
      rfl

/-- Whether a node makes a listener. -/
def isListener (node : Node) : Bool :=
  (ListenerEvent.ofTag? node.name).isSome

/-- The texts of all labels that a node puts into its widget. -/
def allLabelTexts (node : Node) : List String :=
  (WidgetKind.ofTag? node.name).elim [] node.labelTexts

mutual

/-- The nodes of a tree that make no listeners, a node before those inside it. -/
def makers : Node → List Node
  | ⟨name, isMacro, attributes, children, text, position⟩ =>
      let node : Node := ⟨name, isMacro, attributes, children, text, position⟩
      if node.isListener then makersAll children else node :: makersAll children

/-- The nodes of a forest that make no listeners, in the order of the source. -/
def makersAll : List Node → List Node
  | [] => []
  | node :: rest => node.makers ++ makersAll rest

end

theorem makers_eq
    (node : Node) :
    node.makers =
      if node.isListener then makersAll node.children else node :: makersAll node.children := by
  cases node
  rw [makers]

/-- The number of widgets that a forest plans: one for each node that makes no listener, and one for
each label that is made from a text. -/
def planCount (nodes : List Node) : Nat :=
  (makersAll nodes).length + ((makersAll nodes).flatMap allLabelTexts).length

theorem planCount_cons
    (node : Node)
    (rest : List Node) :
    planCount (node :: rest) = planCount [node] + planCount rest := by
  simp only [planCount, makersAll, List.append_nil, List.flatMap_append, List.length_append]
  omega

/-- A node plans one widget and its labels, unless it makes a listener, and what is inside it. -/
theorem planCount_singleton
    (node : Node) :
    planCount [node] =
      (if node.isListener then 0 else 1 + node.allLabelTexts.length) + planCount node.children := by
  simp only [planCount, makersAll, List.append_nil, makers_eq]
  split
  · omega
  · rw [List.length_cons, List.flatMap_cons, List.length_append]
    omega

variable {look : Option String → β} {separator : Char}

/-- A node makes as many widgets as it plans if the nodes inside it do. -/
theorem countAll_of_inside
    {node : Node}
    {made : TargetSketch β}
    (inside :
      ∀ sketches, planAll? look separator node.children = some sketches →
        Sketch.countAll (sketches.filterMap TargetSketch.widget?) = planCount node.children)
    (planned : node.plan? look separator = some made) :
    Sketch.countAll made.widget?.toList = planCount [node] := by
  rw [plan?_eq] at planned
  obtain ⟨sketches, isInside, planned⟩ := Option.bind_eq_some_iff.1 planned
  rw [planCount_singleton, ← inside sketches isInside, isListener]
  cases isKind : WidgetKind.ofTag? node.name with
  | some kind =>
      rw [isKind] at planned
      cases planned
      have labels : node.allLabelTexts = node.labelTexts kind := by
        rw [allLabelTexts, isKind]
        rfl
      rw [ListenerEvent.ofTag?_of_kind isKind, labels]
      change Sketch.countAll [_] = _
      rw [Sketch.countAll, Sketch.countAll, Sketch.count_eq]
      change 1 + Sketch.countAll ((node.labelTexts kind).map (Sketch.label look) ++ _) + 0 = _
      rw [Sketch.countAll_append, Sketch.countAll_map_label]
      simp only [Option.isSome_none, Bool.false_eq_true, ↓reduceIte]
      omega
  | none =>
      rw [isKind] at planned
      cases isEvent : ListenerEvent.ofTag? node.name with
      | none =>
          rw [isEvent] at planned
          cases planned
      | some event =>
          rw [isEvent] at planned
          dsimp only at planned
          split at planned
          · rename_i isEmpty
            cases planned
            rw [List.isEmpty_iff.1 isEmpty]
            rfl
          · cases planned

mutual

/-- A node makes as many widgets as it plans. -/
theorem countAll_of_plan? :
    ∀ (node : Node) (made : TargetSketch β),
      node.plan? look separator = some made →
        Sketch.countAll made.widget?.toList = planCount [node]
  | ⟨_, _, _, children, _, _⟩, _, planned =>
      countAll_of_inside (countAll_of_planAll? children) planned

/-- A forest makes as many widgets as it plans. -/
theorem countAll_of_planAll? :
    ∀ (nodes : List Node) (made : List (TargetSketch β)),
      planAll? look separator nodes = some made →
        Sketch.countAll (made.filterMap TargetSketch.widget?) = planCount nodes
  | [], _, planned => by
      cases planned
      rfl
  | node :: rest, _, planned => by
      rw [planAll?] at planned
      obtain ⟨first, isFirst, planned⟩ := Option.bind_eq_some_iff.1 planned
      obtain ⟨others, isRest, planned⟩ := Option.bind_eq_some_iff.1 planned
      cases planned
      rw [planCount_cons, ← countAll_of_plan? node first isFirst,
        ← countAll_of_planAll? rest others isRest, ← Sketch.countAll_append]
      cases first <;> rfl

end

end Node

end Markup

end WidgetMarkup
