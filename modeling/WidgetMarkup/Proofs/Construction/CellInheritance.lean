import WidgetMarkup.Proofs.Construction.ActionNames
import WidgetMarkup.Proofs.Construction.FailurePlaces
import WidgetMarkup.Proofs.Construction.Surroundings
import WidgetMarkup.Proofs.Widget.TableRows

namespace WidgetMarkup

open Markup

/-!
# Cells of tables

The cells of a table start from its defaults, which its attributes have written before anything is
taken in. What a tag inside writes into its own cell comes after that. So a default is as good as a
first attribute on every tag inside the table.
-/

namespace Markup.Node

/-- Whether a node is a tag of a kind of widgets with tables, and none of its attributes stands for
an action. -/
structure MakesTable (kind : WidgetKind) (node : Node) : Prop where
  isKind : WidgetKind.ofTag? node.name = some kind
  shape : kind.shape = .table
  runsNothing : ∀ entry ∈ node.attributes, Declaration.RunsNothing entry.name

/-- Whether a node is a tag that makes widgets. -/
def makesWidget (node : Node) : Bool :=
  (WidgetKind.ofTag? node.name).isSome

/-- The node with one more attribute in front. -/
def startingWith (entry : Attribute) (node : Node) : Node :=
  { node with attributes := entry :: node.attributes }

/-- The node with one more attribute at the end. -/
def endingWith (entry : Attribute) (node : Node) : Node :=
  { node with attributes := node.attributes ++ [entry] }

/-- The node with one more attribute in front of those of each tag inside that makes no listener. -/
def startingInside (entry : Attribute) (node : Node) : Node :=
  { node with
    children :=
      node.children.map fun child =>
        if (ListenerEvent.ofTag? child.name).isSome then child else child.startingWith entry }

variable {kind : WidgetKind} {node : Node}

theorem MakesTable.endingWith
    {entry : Attribute}
    (runsNothing : Declaration.RunsNothing entry.name)
    (makesTable : node.MakesTable kind) :
    (node.endingWith entry).MakesTable kind where
  isKind := makesTable.isKind
  shape := makesTable.shape
  runsNothing :=
    List.forall_mem_append.2 ⟨makesTable.runsNothing, List.forall_mem_singleton.2 runsNothing⟩

theorem MakesTable.startingInside
    (entry : Attribute)
    (makesTable : node.MakesTable kind) :
    (node.startingInside entry).MakesTable kind where
  isKind := makesTable.isKind
  shape := makesTable.shape
  runsNothing := makesTable.runsNothing

/-- Without text there are no lines for labels. -/
theorem labelTexts_of_not_hasText
    (noText : node.hasText = false) :
    node.labelTexts kind = [] := by
  rw [labelTexts, noText]
  rfl

end Markup.Node

/-- The cells of the labels that a text makes in a table: each ends its row, and is as cells start
otherwise. -/
def labelCells (defaults : CellProperties) (lines : List String) : List (Cell Widget) :=
  lines.map fun line => ⟨{ defaults with endRow := true }, Widget.label line⟩

theorem TagRule.addLabelRows_eq
    (lines : List String)
    (table : Table Widget) :
    addLabelRows lines table = table.addAll (labelCells table.defaults lines) := by
  unfold addLabelRows labelCells Table.addAll
  rw [List.foldl_map]
  induction lines generalizing table with
  | nil =>
      rfl
  | cons first rest inductionHypothesis =>
      exact inductionHypothesis _

/-- Whether a target is a widget of a kind that holds a table. -/
inductive Target.HoldsTable (kind : WidgetKind) (table : Table Widget) : Target → Prop where
  | mk
      {widget : Widget}
      (isKind : widget.kind = kind)
      (content : widget.content = .table table) :
      HoldsTable kind table (.widget widget)

section Steps

variable {interpreter : Interpreter} {kind : WidgetKind} {table : Table Widget}

theorem Target.HoldsTable.childCells?_eq
    {target : Target}
    (holds : target.HoldsTable kind table) :
    target.childCells? = some table.defaults := by
  cases holds with
  | mk _ content =>
      unfold Target.childCells? Target.widget? Widget.table?
      rw [Option.bind_some, content]
      rfl

/-- An attribute under whose name no action runs writes into the defaults of a table or leaves the
table. -/
theorem AttributeStep.holdsTable
    (standard : interpreter.vocabulary = .standard)
    {entry : Attribute}
    (runsNothing : Declaration.RunsNothing entry.name)
    {workpiece changed : Workpiece}
    (holds : workpiece.target.HoldsTable kind table)
    (step : AttributeStep interpreter entry workpiece changed) :
    ∃ defaults,
      CellProperties.writtenBy .table table.defaults entry = .ok defaults ∧
        changed.target.HoldsTable kind { table with defaults } ∧
        changed.onClose = workpiece.onClose := by
  obtain ⟨target, onClose⟩ := workpiece
  cases holds with
  | @mk widget isKind content =>
      unfold CellProperties.writtenBy
      cases step with
      | skips unknown =>
          rw [standard] at unknown
          rw [Vocabulary.cellRule?_of_resolve_standard_unknown unknown]
          exact ⟨_, rfl, .mk isKind content, rfl⟩
      | applies found ran =>
          rw [standard] at found
          have writes := Vocabulary.writes_of_resolve_standard found runsNothing
          cases isRule : StandardAttribute.cellRule? .table entry.name with
          | none =>
              rw [isRule] at writes
              obtain ⟨changed, rfl, sameKind, sameContent⟩ := writes _ _ _ _ _ _ _ ran
              exact ⟨_, rfl, .mk (sameKind.trans isKind) (sameContent.trans content), rfl⟩
          | some own =>
              rw [isRule] at writes
              cases writes
              obtain ⟨_, _, required, ran⟩ := bind_eq_ok ran
              cases AttributeContext.requireWidget_eq_ok required
              simp only [content] at ran
              obtain ⟨defaults, _, written, ran⟩ := bind_eq_ok ran
              cases ran
              exact ⟨defaults, Logged.ofExcept_eq_ok written, .mk isKind rfl, rfl⟩

/-- The defaults of a table are what its attributes write, one after another. -/
theorem AttributeSteps.holdsTable
    (standard : interpreter.vocabulary = .standard)
    {entries : List Attribute}
    (runsNothing : ∀ entry ∈ entries, Declaration.RunsNothing entry.name)
    {workpiece changed : Workpiece}
    (holds : workpiece.target.HoldsTable kind table)
    (steps : AttributeSteps interpreter entries workpiece changed) :
    ∃ defaults,
      CellProperties.written .table entries table.defaults = .ok defaults ∧
        changed.target.HoldsTable kind { table with defaults } ∧
        changed.onClose = workpiece.onClose := by
  induction steps generalizing table with
  | nothing =>
      exact ⟨table.defaults, rfl, holds, rfl⟩
  | next first _ inductionHypothesis =>
      obtain ⟨isFirst, inRest⟩ := List.forall_mem_cons.1 runsNothing
      obtain ⟨between, written, isHeld, sameQueue⟩ := first.holdsTable standard isFirst holds
      obtain ⟨defaults, others, stillHolds, stillSame⟩ := inductionHypothesis inRest isHeld
      refine ⟨defaults, ?_, stillHolds, stillSame.trans sameQueue⟩
      rw [CellProperties.written_cons, written]
      exact others

/-- Labels are added to a table that bears no text for the lines of the text inside its tag. -/
theorem TagRule.TakesText.holdsTable
    {node : Node}
    {explicit : Bool}
    {target changed : Target}
    (shape : kind.shape = .table)
    (holds : target.HoldsTable kind table)
    (takes : (TagRule.ofKind kind).TakesText node explicit target changed) :
    changed.HoldsTable kind (table.addAll (labelCells table.defaults (node.labelTexts kind))) := by
  unfold TakesText at takes
  unfold Node.labelTexts
  cases hasText : node.hasText with
  | false =>
      rw [hasText] at takes
      cases takes
      exact holds
  | true =>
      rw [if_pos hasText] at takes
      obtain ⟨journal, journal', ran⟩ := takes
      have ran : takeTextByDefault node.text explicit target journal = .ok changed journal' := ran
      cases holds with
      | @mk widget isKind content =>
          unfold takeTextByDefault at ran
          simp only [isKind] at ran
          rw [Bool.true_and, shape]
          cases bearsText : kind.has .textBearing with
          | true =>
              simp only [bearsText, ↓reduceIte] at ran
              cases explicit with
              | true =>
                  obtain ⟨_, _, _, ran⟩ := bind_eq_ok ran
                  cases ran
                  exact .mk isKind content
              | false =>
                  cases ran
                  exact .mk rfl content
          | false =>
              simp only [bearsText, Bool.false_eq_true, ↓reduceIte] at ran
              obtain ⟨labelled, _, added, ran⟩ := bind_eq_ok ran
              cases ran
              have added := Logged.ofExcept_eq_ok added
              unfold addTextLabels at added
              rw [content] at added
              cases added
              refine .mk isKind ?_
              rw [addLabelRows_eq]
              rfl

end Steps

section Sorts

variable {interpreter : Interpreter}

/-- What the language has no tags for stands for no kind. -/
theorem WidgetKind.ofTag?_eq_none_of_tag?_standard
    {name : String}
    (unknown : Vocabulary.standard.tag? name = none) :
    ofTag? name = none := by
  cases found : ofTag? name with
  | none =>
      rfl
  | some kind =>
      have known : ∀ kind ∈ all, (Vocabulary.standard.tag? kind.name).isSome = true := by
        decide +kernel
      have isKnown := known kind (List.mem_of_find?_eq_some found)
      have same := List.find?_some found
      rw [Vocabulary.tag?_congr (Text.sameName_iff.1 same), unknown] at isKnown
      cases isKnown

theorem AttributeEffects.isWidget_iff
    {entries : List Attribute}
    {target changed : Target}
    (effects : AttributeEffects interpreter entries target changed) :
    changed.widget?.isSome = target.widget?.isSome := by
  induction effects with
  | nothing =>
      rfl
  | skips _ _ inductionHypothesis =>
      exact inductionHypothesis
  | applies first _ inductionHypothesis =>
      rw [inductionHypothesis]
      cases first <;> rfl

/-- The tags of kinds, and no others, are built into widgets. -/
theorem Interpreter.buildSteps_sorts
    (standard : interpreter.vocabulary = .standard) :
    interpreter.BuildSteps
      (fun _ node _ built _ =>
        ∀ target, built = some target → target.widget?.isSome = node.makesWidget)
      (fun _ target _ _ filled _ => filled.widget?.isSome = target.widget?.isSome) where
  leftOut _ := nofun
  closes found _ begins children closing := by
    rintro _ ⟨⟩
    obtain ⟨blueprint, made, attributed, _, created, applied, texted⟩ := begins
    have isBegun := children.trans (texted.isWidget_iff.trans applied.isWidget_iff)
    have isClosed := isBegun
    unfold Node.makesWidget
    rcases Vocabulary.ofTag?_of_tag?_standard (standard ▸ found) with
      ⟨kind, isKind, rfl⟩ | ⟨event, noKind, _, rfl⟩
    · obtain ⟨_, _, rfl⟩ := TagRule.createOfKind_eq_ok created
      rw [isKind]
      cases closing with
      | widget => rfl
      | listener => cases isClosed
    · cases created
      rw [noKind]
      cases closing with
      | widget => cases isClosed
      | listener => rfl
  nil _ _ _ := rfl
  skips _ rest := rest
  takes _ taking rest := by
    rw [rest]
    cases taking <;> rfl

end Sorts

/-- An attribute in front of every tag inside a node that makes no listener is in front of every tag
that makes a widget. -/
theorem Markup.Node.filter_children_startingInside
    (entry : Attribute)
    (node : Node) :
    (node.startingInside entry).children.filter makesWidget =
      (node.children.filter makesWidget).map (startingWith entry) := by
  unfold startingInside
  induction node.children with
  | nil =>
      rfl
  | cons child rest inductionHypothesis =>
      dsimp only at inductionHypothesis ⊢
      rw [List.map_cons]
      cases isKind : WidgetKind.ofTag? child.name with
      | none =>
          have noWidget : child.makesWidget = false := by
            rw [makesWidget, isKind]
            rfl
          have stillNone :
              (if (ListenerEvent.ofTag? child.name).isSome then child
                else child.startingWith entry).makesWidget = false := by
            split <;> exact noWidget
          rw [List.filter_cons_of_neg (by simp [stillNone]),
            List.filter_cons_of_neg (by simp [noWidget]), inductionHypothesis]
      | some kind =>
          have isWidget : child.makesWidget = true := by
            rw [makesWidget, isKind]
            rfl
          have stillWidget : (child.startingWith entry).makesWidget = true := isWidget
          rw [ListenerEvent.ofTag?_of_kind isKind, if_neg nofun,
            List.filter_cons_of_pos stillWidget, List.filter_cons_of_pos isWidget,
            inductionHypothesis, List.map_cons]

namespace Interpreter

variable {interpreter : Interpreter} {kind : WidgetKind} {table : Table Widget}

theorem Builds.isWidget_iff
    (standard : interpreter.vocabulary = .standard)
    {cells : Option CellProperties}
    {node : Node}
    {closed : ClosedTag}
    (builds : interpreter.Builds cells node closed) :
    closed.target.widget?.isSome = node.makesWidget := by
  obtain ⟨_, _, _, _, ran⟩ := builds
  exact (buildSteps_sorts standard).tag_of_buildTag standard _ _ _ _ _ _ _ ran _ rfl

/-- Whether a tag inside a table whose cells start from something is built into a cell. -/
def BuildsCell
    (interpreter : Interpreter)
    (defaults : CellProperties)
    (node : Node)
    (cell : Cell Widget) :
    Prop :=
  interpreter.Builds (some defaults) node ⟨.widget cell.widget, cell.properties⟩

/-- A cell is what the attributes of its tag write over the defaults of the table. -/
theorem BuildsCell.written
    (standard : interpreter.vocabulary = .standard)
    {defaults : CellProperties}
    {node : Node}
    {cell : Cell Widget}
    (builds : interpreter.BuildsCell defaults node cell) :
    CellProperties.written .cell node.attributes defaults = .ok cell.properties := by
  obtain ⟨rule, _, _, steps⟩ := Builds.exists_buildsBy builds
  have isWritten := steps.cell
  rw [standard] at isWritten
  exact (SplitAttributes.ofEntries_cell rule.features _ _).symm.trans isWritten

/-- The widgets that are built inside a table are added to it in their cells. -/
theorem TakesInside.holdsTable
    (standard : interpreter.vocabulary = .standard)
    {defaults : CellProperties}
    {nodes : List Node}
    {target filled : Target}
    (holds : target.HoldsTable kind table)
    (fills :
      interpreter.TakesInside (.ofKind kind) (some defaults) nodes target filled) :
    ∃ cells,
      List.Forall₂ (interpreter.BuildsCell defaults) (nodes.filter Node.makesWidget) cells ∧
        filled.HoldsTable kind (table.addAll cells) := by
  induction fills generalizing table with
  | nothing =>
      exact ⟨[], .nil, holds⟩
  | @skips node _ _ _ unknown _ inductionHypothesis =>
      rw [standard] at unknown
      have noWidget : ¬node.makesWidget := by
        unfold Node.makesWidget
        rw [WidgetKind.ofTag?_eq_none_of_tag?_standard unknown]
        nofun
      rw [List.filter_cons_of_neg noWidget]
      exact inductionHypothesis holds
  | @takes node _ closed _ _ _ builds taken _ inductionHypothesis =>
      have isWidget := builds.isWidget_iff standard
      obtain ⟨target, cell⟩ := closed
      cases holds with
      | @mk widget isKind content =>
          cases target with
          | listener listener =>
              have noWidget : ¬node.makesWidget := by
                rw [← isWidget]
                nofun
              cases taken
              rw [List.filter_cons_of_neg noWidget]
              exact inductionHypothesis (.mk isKind content)
          | widget child =>
              have taken : TagRule.takeWidgetByDefault child cell (.widget widget) = .ok _ := taken
              unfold TagRule.takeWidgetByDefault at taken
              simp only [content] at taken
              cases taken
              rw [List.filter_cons_of_pos isWidget.symm]
              obtain ⟨cells, others, stillHolds⟩ := inductionHypothesis (.mk isKind rfl)
              exact ⟨⟨cell, child⟩ :: cells, .cons builds others, stillHolds⟩

/-- A tag with a table that runs no actions is built into a table whose defaults are what its
attributes write, with the labels of its text and the cells that are built inside it. -/
theorem Builds.exists_table
    (standard : interpreter.vocabulary = .standard)
    {cells : Option CellProperties}
    {node : Node}
    {closed : ClosedTag}
    (makesTable : node.MakesTable kind)
    (builds : interpreter.Builds cells node closed) :
    ∃ widget defaults inside,
      closed.target = .widget widget ∧
        CellProperties.written .table node.attributes {} = .ok defaults ∧
        List.Forall₂ (interpreter.BuildsCell defaults) (node.children.filter Node.makesWidget)
          inside ∧
        widget.content =
          .table
            (Table.addAll (labelCells defaults (node.labelTexts kind) ++ inside) { defaults }) := by
  obtain ⟨isKind, shape, runsNothing⟩ := makesTable
  obtain ⟨rule, begun, filled, steps⟩ := builds.exists_buildsBy
  have found := steps.found
  rw [standard] at found
  obtain rfl : rule = .ofKind kind := by
    rcases Vocabulary.ofTag?_of_tag?_standard found with
      ⟨_, isOther, rfl⟩ | ⟨_, noKind, _, _⟩
    · rw [Option.some.inj (isKind.symm.trans isOther)]
    · cases noKind.symm.trans isKind
  obtain ⟨begunTarget, queue⟩ := begun
  obtain ⟨blueprint, made, attributed, _, created, applied, texted, rfl⟩ := steps.opens
  have fresh : made.HoldsTable kind {} := by
    obtain ⟨_, _, rfl⟩ := TagRule.createOfKind_eq_ok created
    refine .mk rfl ?_
    cases kind <;> first | rfl | cases shape
  rw [standard] at applied
  obtain ⟨_, _, areOwn⟩ :=
    SplitAttributes.mem_of_mem_ofAttributes .standard (TagRule.ofKind kind).features cells.isSome
      node.attributes
  obtain ⟨defaults, written, isHeld, noQueue⟩ :=
    applied.holdsTable standard (fun entry member => runsNothing entry (areOwn entry member)) fresh
  rw [SplitAttributes.written_target] at written
  have labelled := texted.holdsTable shape isHeld
  have fills := steps.fills
  rw [labelled.childCells?_eq, Table.defaults_addAll] at fills
  obtain ⟨inside, builtInside, isFilled⟩ := fills.holdsTable standard labelled
  have closes := steps.closes
  rw [noQueue] at closes
  -- Nothing has been put off, so closing the tag leaves its widget as it is filled.
  generalize closed.target = target at closes
  cases isFilled with
  | @mk widget _ content =>
      cases closes with
      | widget ran =>
          cases ran
          refine ⟨widget, defaults, inside, rfl, written, builtInside, ?_⟩
          rw [content, Table.addAll_append]

section Defaults

variable {entry : Attribute} {own : CellRule} {defaults changed : CellProperties} {node : Node}

/-- A tag in a table is opened in the same way with one more attribute of its cell. -/
theorem opensWith_startingWith
    (standard : interpreter.vocabulary = .standard)
    (isCell : StandardAttribute.cellRule? .cell entry.name = some own)
    {rule : TagRule}
    {workpiece : Workpiece} :
    interpreter.OpensWith rule true (node.startingWith entry) workpiece =
      interpreter.OpensWith rule true node workpiece := by
  unfold OpensWith
  rw [standard, Node.startingWith, SplitAttributes.ofAttributes_cons_of_cell isCell]
  rfl

/-- A tag in a table is built into the same cell if its first attribute has been written into the
defaults of the table instead. -/
theorem BuildsCell.unique_startingWith
    (standard : interpreter.vocabulary = .standard)
    (isCell : StandardAttribute.cellRule? .cell entry.name = some own)
    (written : own.apply entry.value defaults = .ok changed)
    {cell cell' : Cell Widget}
    (builds : interpreter.BuildsCell changed node cell)
    (builds' : interpreter.BuildsCell defaults (node.startingWith entry) cell') :
    cell = cell' := by
  obtain ⟨properties, widget⟩ := cell
  obtain ⟨properties', widget'⟩ := cell'
  have sameProperties : properties = properties' := by
    have isWritten' := builds'.written standard
    have isWritten := builds.written standard
    have first : CellProperties.writtenBy .cell defaults entry = .ok changed := by
      rw [CellProperties.writtenBy, isCell]
      exact written
    rw [Node.startingWith, CellProperties.written_cons, first] at isWritten'
    exact Except.ok.inj (isWritten.symm.trans isWritten')
  have sameWidget : widget = widget' := by
    obtain ⟨rule, begun, filled, steps⟩ := Builds.exists_buildsBy builds
    obtain ⟨rule', begun', filled', steps'⟩ := Builds.exists_buildsBy builds'
    cases steps.found.symm.trans steps'.found
    have isStandard : rule.IsStandard :=
      Vocabulary.hasStandardRules_standard.tags _ rule (standard ▸ steps.found)
    have opens' : interpreter.OpensWith rule true (node.startingWith entry) begun' := steps'.opens
    rw [opensWith_startingWith standard isCell] at opens'
    -- The first attribute has gone into the cell, at which filling and closing do not look.
    cases OpensWith.unique standard isStandard steps.opens opens'
    cases TakesInside.unique standard _ _ _ _ _ _ steps.fills steps'.fills
    exact Target.widget.inj (steps.closes.unique steps'.closes)
  rw [sameProperties, sameWidget]

/-- So are all tags in the table. -/
theorem cells_unique_startingWith
    (standard : interpreter.vocabulary = .standard)
    (isCell : StandardAttribute.cellRule? .cell entry.name = some own)
    (written : own.apply entry.value defaults = .ok changed)
    {nodes : List Node}
    {cells cells' : List (Cell Widget)}
    (built : List.Forall₂ (interpreter.BuildsCell changed) nodes cells)
    (built' :
      List.Forall₂ (interpreter.BuildsCell defaults) (nodes.map (Node.startingWith entry)) cells') :
    cells = cells' := by
  induction built generalizing cells' with
  | nil =>
      cases built'
      rfl
  | cons first _ inductionHypothesis =>
      cases built' with
      | cons first' others' =>
          rw [first.unique_startingWith standard isCell written first',
            inductionHypothesis others']

end Defaults

/-- What the attributes of a table write last is written into the defaults that the others give. -/
theorem written_endingWith
    {entry : Attribute}
    {own : CellRule}
    (isDefault : StandardAttribute.cellRule? .table entry.name = some own)
    {node : Node}
    {defaults changed : CellProperties}
    (written : CellProperties.written .table node.attributes {} = .ok defaults)
    (isWritten :
      CellProperties.written .table (node.endingWith entry).attributes {} = .ok changed) :
    own.apply entry.value defaults = .ok changed := by
  rw [Node.endingWith, CellProperties.written_append, written] at isWritten
  have last : CellProperties.writtenBy .table defaults entry >>= pure = .ok changed := isWritten
  rw [bind_pure, CellProperties.writtenBy, isDefault] at last
  exact last

/-- A default that a table sets last is as good as a first attribute of each cell. -/
theorem rows_eq_of_builds
    (standard : interpreter.vocabulary = .standard)
    {default name raw : String}
    {own : CellRule}
    (isDefault : StandardAttribute.cellRule? .table default = some own)
    (runsNothing : Declaration.RunsNothing default)
    (isCell : StandardAttribute.cellRule? .cell name = some own)
    {cells cells' : Option CellProperties}
    {node : Node}
    {closed closed' : ClosedTag}
    (makesTable : node.MakesTable kind)
    (noText : node.hasText = false)
    (builds : interpreter.Builds cells (node.endingWith ⟨default, raw⟩) closed)
    (builds' : interpreter.Builds cells' (node.startingInside ⟨name, raw⟩) closed') :
    ∃ widget table widget' table',
      closed.target = .widget widget ∧ widget.content = .table table ∧
        closed'.target = .widget widget' ∧ widget'.content = .table table' ∧
        table.rows = table'.rows := by
  obtain ⟨widget, changed, inside, isWidget, isWritten, built, content⟩ :=
    builds.exists_table standard (makesTable.endingWith runsNothing)
  obtain ⟨widget', defaults, inside', isWidget', written, built', content'⟩ :=
    builds'.exists_table standard (makesTable.startingInside ⟨name, raw⟩)
  have changes : own.apply raw defaults = .ok changed :=
    written_endingWith isDefault written isWritten
  rw [Node.filter_children_startingInside] at built'
  obtain rfl : inside = inside' := cells_unique_startingWith standard isCell changes built built'
  refine ⟨widget, _, widget', _, isWidget, content, isWidget', content', ?_⟩
  have noLabels : (node.endingWith ⟨default, raw⟩).labelTexts kind = [] :=
    Node.labelTexts_of_not_hasText noText
  have noLabels' : (node.startingInside ⟨name, raw⟩).labelTexts kind = [] :=
    Node.labelTexts_of_not_hasText noText
  have sameRows :
      ({ defaults := changed } : Table Widget).rows = ({ defaults } : Table Widget).rows :=
    rfl
  rw [noLabels, noLabels']
  exact Table.rows_addAll_congr sameRows inside

/--
Cell inheritance: with the vocabulary of the language, the defaults of a table that runs no actions
are what its attributes write into a fresh cell, the labels of its text have them and end their
rows, and the cell of each widget inside is what the attributes of its tag write over the defaults.
For each cell attribute that has a name on tables, a table without text has the same rows whether
its last attribute sets the default or each tag inside that makes no listener starts with the
attribute for its own cell.
-/
theorem inheritedCells_of_builds
    (interpreter : Interpreter)
    (standard : interpreter.vocabulary = .standard) :
    (∀ cells (node : Node) kind closed,
      node.MakesTable kind → interpreter.Builds cells node closed →
        ∃ widget table inside,
          closed.target = .widget widget ∧ widget.content = .table table ∧
            CellProperties.written .table node.attributes {} = .ok table.defaults ∧
            table.cells = labelCells table.defaults (node.labelTexts kind) ++ inside ∧
            List.Forall₂
              (fun child cell =>
                interpreter.BuildsCell table.defaults child cell ∧
                  CellProperties.written .cell child.attributes table.defaults =
                    .ok cell.properties)
              (node.children.filter Node.makesWidget) inside) ∧
      ∀ names own default raw,
        (names, own) ∈ StandardAttribute.cell → names.default = some default →
          ∀ cells cells' (node : Node) kind closed closed',
            node.MakesTable kind → node.hasText = false →
              interpreter.Builds cells (node.endingWith ⟨default, raw⟩) closed →
              interpreter.Builds cells' (node.startingInside ⟨names.cell, raw⟩) closed' →
                ∃ widget table widget' table',
                  closed.target = .widget widget ∧ widget.content = .table table ∧
                    closed'.target = .widget widget' ∧ widget'.content = .table table' ∧
                    table.rows = table'.rows := by
  refine ⟨?folds, ?defaults⟩
  case folds =>
    intro cells node kind closed makesTable builds
    obtain ⟨widget, defaults, inside, isWidget, written, built, content⟩ :=
      builds.exists_table standard makesTable
    refine ⟨widget, _, inside, isWidget, content, ?_, ?_, ?_⟩
    · rw [Table.defaults_addAll]
      exact written
    · rw [Table.cells_addAll, Table.defaults_addAll]
      rfl
    · rw [Table.defaults_addAll]
      exact built.imp fun _ _ builds => ⟨builds, builds.written standard⟩
  case defaults =>
    intro names own default raw listed onTables cells cells' node kind closed closed' makesTable
      noText builds builds'
    have isOnTables : default ∈ CellPlace.table.names names := by
      rw [CellPlace.names, onTables]
      exact List.mem_singleton_self _
    have runsNothing : Declaration.RunsNothing default :=
      StandardAttribute.runsNothing_of_mem_cell _ listed _ (List.mem_cons_of_mem _ isOnTables)
    exact rows_eq_of_builds standard (StandardAttribute.cellRule?_of_mem_names listed isOnTables)
      runsNothing (StandardAttribute.cellRule?_of_mem_names listed (List.mem_singleton_self _))
      makesTable noText builds builds'

/-- A table has two labels for its text, and a label and an image beside a listener; padding may be
set for the table or for both. -/
theorem inheritedCells_of_builds_padded :
    let interpreter : Interpreter :=
      { vocabulary := .standard, actions := ({} : Actions).insert "wait" {} }
    let node : Node :=
      { name := "table"
        attributes := [⟨"defaultGrow", "true"⟩, ⟨"id", "top"⟩, ⟨"defaultFillX", "false"⟩]
        children :=
          [{ name := "label", attributes := [⟨"padTop", "9"⟩] },
            { name := "onClick", text := "wait" },
            { name := "image", attributes := [⟨"row", "true"⟩, ⟨"colspan", "2"⟩] }] }
    let labelled : Node := { node with text := "one\ntwo" }
    node.MakesTable .table ∧
      (∃ closed widget table inside,
        interpreter.Builds none labelled closed ∧ closed.target = .widget widget ∧
          widget.content = .table table ∧
          CellProperties.written .table node.attributes {} = .ok table.defaults ∧
          table.cells = labelCells table.defaults ["one", "two"] ++ inside ∧
          inside.length = 2) ∧
      ∃ closed closed' widget table widget' table',
        interpreter.Builds none (node.endingWith ⟨"defaultPad", "4"⟩) closed ∧
          interpreter.Builds none (node.startingInside ⟨"pad", "4"⟩) closed' ∧
          closed.target = .widget widget ∧ widget.content = .table table ∧
          closed'.target = .widget widget' ∧ widget'.content = .table table' ∧
          table.rows = table'.rows := by
  intro interpreter node labelled
  have makesTable : node.MakesTable .table := ⟨by decide +kernel, rfl, by decide +kernel⟩
  obtain ⟨folds, defaults⟩ := inheritedCells_of_builds interpreter rfl
  refine ⟨makesTable, ?_, ?_⟩
  · obtain ⟨closed, isBuilt⟩ :=
      @exists_builds_of_buildAlone interpreter none labelled (by decide +kernel)
    obtain ⟨widget, table, inside, isWidget, content, written, cells, built⟩ :=
      folds none labelled .table closed ⟨makesTable.isKind, rfl, makesTable.runsNothing⟩ isBuilt
    have lines : labelled.labelTexts .table = ["one", "two"] := by decide +kernel
    have count : (labelled.children.filter Node.makesWidget).length = 2 := by decide +kernel
    rw [lines] at cells
    exact ⟨closed, widget, table, inside, isBuilt, isWidget, content, written, cells,
      built.length_eq.symm.trans count⟩
  · obtain ⟨closed, isBuilt⟩ :=
      @exists_builds_of_buildAlone interpreter none (node.endingWith ⟨"defaultPad", "4"⟩)
        (by decide +kernel)
    obtain ⟨closed', isBuilt'⟩ :=
      @exists_builds_of_buildAlone interpreter none (node.startingInside ⟨"pad", "4"⟩)
        (by decide +kernel)
    obtain ⟨widget, table, widget', table', tables⟩ :=
      defaults (.derived "pad") _ "defaultPad" "4" List.mem_cons_self (by decide +kernel) none none
        node .table closed closed' makesTable (by decide +kernel) isBuilt isBuilt'
    exact ⟨closed, closed', widget, table, widget', table', isBuilt, isBuilt', tables⟩

end Interpreter

end WidgetMarkup
