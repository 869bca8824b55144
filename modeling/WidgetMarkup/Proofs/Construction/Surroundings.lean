import WidgetMarkup.Proofs.Construction.OmittedAttributes
import WidgetMarkup.Proofs.Construction.Successes
import WidgetMarkup.Proofs.Vocabulary.CellRules

namespace WidgetMarkup

open Markup

/-!
# What a tag is built into

A tag is built from its attributes, the text inside it and its children. The tags around it, the ids
that are open and what has been registered so far may make it fail, but they do not change what it
becomes: that depends on the tag alone and, inside a table, on what its cell starts from.
-/

/-- Whether work with the journal that succeeds gives the same value whatever the journal holds. -/
def Logged.HasOneValue {α : Type} (inner : Logged α) : Prop :=
  ∀ journal journal' value value' after after',
    inner journal = .ok value after → inner journal' = .ok value' after' → value = value'

namespace Logged.HasOneValue

variable {α β : Type}

theorem pure
    (value : α) :
    Logged.HasOneValue (Pure.pure value) := by
  rintro _ _ _ _ _ _ ⟨⟩ ⟨⟩
  rfl

theorem bind
    {inner : Logged α}
    {next : α → Logged β}
    (first : inner.HasOneValue)
    (nexts : ∀ value, Logged.HasOneValue (next value)) :
    Logged.HasOneValue (inner >>= next) := by
  intro journal journal' value value' after after' ran ran'
  obtain ⟨given, between, isGiven, ran⟩ := bind_eq_ok ran
  obtain ⟨given', between', isGiven', ran'⟩ := bind_eq_ok ran'
  cases first _ _ _ _ _ _ isGiven isGiven'
  exact nexts given _ _ _ _ _ _ ran ran'

theorem ofExcept
    (outcome : Except Problem α) :
    (Logged.ofExcept outcome).HasOneValue := by
  intro journal journal' value value' after after' ran ran'
  have same := (Logged.ofExcept_eq_ok ran).symm.trans (Logged.ofExcept_eq_ok ran')
  exact Except.ok.inj same

theorem throw
    (problem : Problem) :
    Logged.HasOneValue (MonadExcept.throw problem : Logged α) := by
  rintro _ _ _ _ _ _ ⟨⟩

theorem record
    (level : LogLevel)
    (text : String) :
    (Logged.record level text).HasOneValue :=
  fun _ _ _ _ _ _ _ _ => rfl

end Logged.HasOneValue

open Logged (HasOneValue)

section Rules

theorem Actions.hasOneValue_start
    (actions : Actions)
    (reference : String)
    (widget : Option Widget) :
    (actions.start reference widget).HasOneValue := by
  intro journal journal' value value' after after' ran ran'
  have same := (start_eq_ok ran).1.symm.trans (start_eq_ok ran').1
  exact Option.some.inj same

theorem Actions.hasOneValue_invokeOn
    (actions : Actions)
    (reference : String)
    (widget : Widget) :
    (actions.invokeOn reference widget).HasOneValue :=
  (actions.hasOneValue_start reference (some widget)).bind fun _ => .pure _

theorem Actions.hasOneValue_invokeOnTarget
    (actions : Actions)
    (reference : String)
    (target : Target) :
    (actions.invokeOnTarget reference target).HasOneValue := by
  cases target with
  | widget widget =>
      exact (actions.hasOneValue_invokeOn reference widget).bind fun _ => .pure _
  | listener listener =>
      exact ((actions.hasOneValue_start reference none).bind fun _ => .pure _).bind fun _ => .pure _

/-- What an attribute of the language makes does not depend on the journal. -/
theorem AttributeRule.IsStandard.hasOneValue
    {rule : AttributeRule}
    (isStandard : rule.IsStandard)
    (context : AttributeContext)
    (raw : String)
    (workpiece : Workpiece) :
    (rule.apply context raw workpiece).HasOneValue := by
  cases isStandard with
  | onWidget | onListener =>
      exact (HasOneValue.ofExcept _).bind fun _ => (HasOneValue.ofExcept _).bind fun _ => .pure _
  | running =>
      exact (context.actions.hasOneValue_invokeOnTarget raw workpiece.target).bind fun _ => .pure _
  | closing =>
      exact (HasOneValue.ofExcept _).bind fun _ => .pure _
  | cellDefaults rule =>
      refine (HasOneValue.ofExcept _).bind fun widget => ?_
      split
      · exact (HasOneValue.ofExcept _).bind fun _ => .pure _
      · exact .throw _

/-- What a tag of the language makes of text does not depend on the journal. -/
theorem TagRule.IsStandard.hasOneValue
    {rule : TagRule}
    (isStandard : rule.IsStandard)
    (text : String)
    (explicit : Bool)
    (target : Target) :
    (rule.takeText text explicit target).HasOneValue := by
  have byDefault : (takeTextByDefault text explicit target).HasOneValue := by
    unfold takeTextByDefault
    cases target with
    | listener listener =>
        dsimp only
        split <;> exact .pure _
    | widget widget =>
        dsimp only
        split
        · split
          · exact (HasOneValue.record _ _).bind fun _ => .pure _
          · exact .pure _
        · exact (HasOneValue.ofExcept _).bind fun _ => .pure _
  cases isStandard <;> exact byDefault

end Rules

/-- What an attribute makes of a workpiece: what the rule makes that is found for it, or nothing if
its name is unknown. -/
inductive AttributeStep (interpreter : Interpreter) (entry : Attribute) :
    Workpiece → Workpiece → Prop where
  | applies
      {rule : AttributeRule}
      {workpiece changed : Workpiece}
      {journal journal' : Journal}
      (found : interpreter.vocabulary.resolve workpiece.target.ancestry entry.name = .found rule)
      (ran :
        rule.apply (Assembly.contextOf interpreter entry) entry.value workpiece journal =
          .ok changed journal') :
      AttributeStep interpreter entry workpiece changed
  | skips
      {workpiece : Workpiece}
      (unknown : interpreter.vocabulary.resolve workpiece.target.ancestry entry.name = .unknown) :
      AttributeStep interpreter entry workpiece workpiece

/-- What attributes make of a workpiece, one after another. -/
inductive AttributeSteps (interpreter : Interpreter) :
    List Attribute → Workpiece → Workpiece → Prop where
  | nothing (workpiece : Workpiece) : AttributeSteps interpreter [] workpiece workpiece
  | next
      {entry : Attribute}
      {entries : List Attribute}
      {workpiece between changed : Workpiece}
      (first : AttributeStep interpreter entry workpiece between)
      (rest : AttributeSteps interpreter entries between changed) :
      AttributeSteps interpreter (entry :: entries) workpiece changed

section Unique

variable {interpreter : Interpreter}

theorem BlueprintEffects.unique
    {entries : List (BuildingRule × Attribute)}
    {before after after' : Blueprint}
    (effects : BlueprintEffects entries before after)
    (effects' : BlueprintEffects entries before after') :
    after = after' := by
  induction effects with
  | nothing =>
      cases effects'
      rfl
  | writes first _ inductionHypothesis =>
      cases effects' with
      | writes first' rest' =>
          cases first.symm.trans first'
          exact inductionHypothesis rest'

theorem AttributeStep.unique
    (standard : interpreter.vocabulary = .standard)
    {entry : Attribute}
    {workpiece changed changed' : Workpiece}
    (step : AttributeStep interpreter entry workpiece changed)
    (step' : AttributeStep interpreter entry workpiece changed') :
    changed = changed' := by
  cases step with
  | applies found ran =>
      cases step' with
      | applies found' ran' =>
          cases found.symm.trans found'
          have isStandard :=
            Vocabulary.hasStandardRules_standard.attributes _ _ _ (standard ▸ found)
          exact isStandard.hasOneValue _ _ _ _ _ _ _ _ _ ran ran'
      | skips unknown =>
          cases found.symm.trans unknown
  | skips unknown =>
      cases step' with
      | applies found =>
          cases unknown.symm.trans found
      | skips =>
          rfl

theorem AttributeSteps.unique
    (standard : interpreter.vocabulary = .standard)
    {entries : List Attribute}
    {workpiece changed changed' : Workpiece}
    (steps : AttributeSteps interpreter entries workpiece changed)
    (steps' : AttributeSteps interpreter entries workpiece changed') :
    changed = changed' := by
  induction steps with
  | nothing =>
      cases steps'
      rfl
  | next first _ inductionHypothesis =>
      cases steps' with
      | next first' rest' =>
          cases first.unique standard first'
          exact inductionHypothesis rest'

end Unique

/-- What a tag makes of a target by the text inside it, if there is any. -/
def TagRule.TakesText (rule : TagRule) (node : Node) (explicit : Bool) (target changed : Target) :
    Prop :=
  if node.hasText then
    ∃ journal journal', rule.takeText node.text explicit target journal = .ok changed journal'
  else
    changed = target

theorem TagRule.TakesText.unique
    {rule : TagRule}
    (isStandard : rule.IsStandard)
    {node : Node}
    {explicit : Bool}
    {target changed changed' : Target}
    (takes : rule.TakesText node explicit target changed)
    (takes' : rule.TakesText node explicit target changed') :
    changed = changed' := by
  unfold TakesText at takes takes'
  cases hasText : node.hasText with
  | true =>
      rw [if_pos hasText] at takes takes'
      obtain ⟨_, _, ran⟩ := takes
      obtain ⟨_, _, ran'⟩ := takes'
      exact isStandard.hasOneValue _ _ _ _ _ _ _ _ _ ran ran'
  | false =>
      rw [hasText] at takes takes'
      exact takes.trans takes'.symm

/-- How a tag stands between the steps of the work on it. -/
structure Assembly.Stands
    (rule : TagRule)
    (workpiece : Workpiece)
    (cell : CellProperties)
    (assembly : Assembly) :
    Prop where
  rule : assembly.rule = rule
  target : assembly.target = some workpiece.target
  onClose : assembly.onClose = workpiece.onClose
  cell : assembly.cell = cell

namespace Assembly

open Work (Leads)

variable {interpreter : Interpreter}

theorem leads_applyAttribute_step
    {entry : Attribute}
    {target : Target}
    {assembly : Assembly}
    (made : assembly.target = some target) :
    Leads (· = assembly) (applyAttribute interpreter entry) fun _ after =>
      ∃ changed,
        AttributeStep interpreter entry ⟨target, assembly.onClose⟩ changed ∧
          after = { assembly with target := some changed.target, onClose := changed.onClose } := by
  rintro bench _ after rfl ran
  cases applies_of_applyAttribute made ran with
  | found found _ applied =>
      exact ⟨_, .applies found applied, rfl⟩
  | skipped unknown =>
      refine ⟨_, .skips unknown, ?_⟩
      rw [← made]

/-- What the attributes of a tag lead to, exactly. -/
theorem leads_applyAttributes_steps
    (entries : List Attribute)
    {target : Target}
    (assembly : Assembly)
    (made : assembly.target = some target) :
    Leads (· = assembly) (applyAttributes interpreter entries) fun _ after =>
      ∃ changed,
        AttributeSteps interpreter entries ⟨target, assembly.onClose⟩ changed ∧
          after = { assembly with target := some changed.target, onClose := changed.onClose } := by
  induction entries generalizing target assembly with
  | nil =>
      refine .pure fun _ same => ⟨_, .nothing _, ?_⟩
      rw [same, ← made]
  | cons entry rest inductionHypothesis =>
      refine (leads_applyAttribute_step made).bind fun _ => .each ?_
      rintro _ ⟨between, first, rfl⟩
      refine (inductionHypothesis _ rfl).mono (fun _ same => same) ?_
      rintro _ _ ⟨changed, others, rfl⟩
      exact ⟨changed, .next first others, rfl⟩

theorem leads_writeCell_steps
    (entries : List (CellRule × Attribute))
    (cell : CellProperties)
    (assembly : Assembly) :
    Leads (· = assembly) (writeCell cell entries) fun written after =>
      CellProperties.ofEntries (some cell) entries = .ok written ∧ after = assembly := by
  induction entries generalizing cell with
  | nil =>
      exact .pure fun _ same => ⟨rfl, same⟩
  | cons first rest inductionHypothesis =>
      refine ((Leads.logged _).onAttribute _).bind fun next => .each ?_
      rintro _ ⟨rfl, _, _, ran⟩
      refine (inductionHypothesis next).mono (fun _ same => same) ?_
      rintro written _ ⟨others, rfl⟩
      refine ⟨?_, rfl⟩
      rw [← others, CellProperties.ofEntries, List.foldlM_cons, Logged.ofExcept_eq_ok ran]
      rfl

theorem leads_configureCell_steps
    (defaults : CellProperties)
    (entries : List (CellRule × Attribute))
    (assembly : Assembly) :
    Leads (· = assembly) (configureCell defaults entries) fun _ after =>
      ∃ cell,
        CellProperties.ofEntries (some defaults) entries = .ok cell ∧
          after = { assembly with cell } := by
  refine (leads_writeCell_steps entries defaults assembly).bind fun cell => .change ?_
  rintro _ ⟨written, rfl⟩
  exact ⟨cell, written, rfl⟩

/-- What the last steps before the children lead to, exactly. -/
theorem leads_settle_steps
    (cells : Option CellProperties)
    (entries : List (CellRule × Attribute))
    (node : Node)
    {target : Target}
    {assembly : Assembly}
    (made : assembly.target = some target)
    (fresh : assembly.cell = {}) :
    Leads (· = assembly) (settle cells entries node.text) fun _ after =>
      ∃ changed cell,
        CellProperties.ofEntries cells entries = .ok cell ∧
          assembly.rule.TakesText node assembly.blueprint.text.isSome target changed ∧
          after = { assembly with target := some changed, cell } := by
  have takes (cell : CellProperties) :
      Leads (· = { assembly with cell }) (if node.hasText then takeText node.text else pure ())
        fun _ after =>
          ∃ changed,
            assembly.rule.TakesText node assembly.blueprint.text.isSome target changed ∧
              after = { assembly with target := some changed, cell } := by
    unfold TagRule.TakesText
    cases node.hasText with
    | false =>
        refine .pure fun _ same => ⟨target, rfl, ?_⟩
        rw [same, ← made]
    | true =>
        refine (leads_takeText _ node.text).mono (fun _ same => same) ?_
        rintro _ _ ⟨_, _, changed, journal, journal', rfl, isMade, ran, rfl⟩
        cases made.symm.trans isMade
        exact ⟨changed, ⟨journal, journal', ran⟩, rfl⟩
  cases cells with
  | none =>
      refine (takes {}).mono ?_ ?_
      · rintro _ rfl
        rw [← fresh]
      · rintro _ _ ⟨changed, texted, rfl⟩
        exact ⟨changed, {}, rfl, texted, rfl⟩
  | some defaults =>
      refine (leads_configureCell_steps defaults entries assembly).bind fun _ => .each ?_
      rintro _ ⟨cell, written, rfl⟩
      refine (takes cell).mono (fun _ same => same) ?_
      rintro _ _ ⟨changed, texted, rfl⟩
      exact ⟨changed, cell, written, texted, rfl⟩

end Assembly

/-- What the cells of children start from, if a target holds a table. -/
def Target.childCells? (target : Target) : Option CellProperties :=
  (target.widget?.bind Widget.table?).map Table.defaults

/-- What a workpiece becomes when its tag closes. -/
inductive Assembly.ClosesTo (actions : Actions) : Workpiece → Target → Prop where
  | widget
      {path : TagPath}
      {widget changed : Widget}
      {onClose : List String}
      {register register' : Register}
      (ran : runOnClose path actions widget onClose register = .ok changed register') :
      ClosesTo actions ⟨.widget widget, onClose⟩ (.widget changed)
  | listener
      {listener : Listener}
      {reference : String}
      {onClose : List String}
      (named : listener.action = some reference) :
      ClosesTo actions ⟨.listener listener, onClose⟩
        (.listener { listener with action := some (Actions.bareName reference) })

namespace Interpreter

/-- Whether a tag is built into a closed one, with what its cell starts from in a table, whatever
tags are around it, ids are open and things have been registered. -/
def Builds
    (interpreter : Interpreter)
    (cells : Option CellProperties)
    (node : Node)
    (closed : ClosedTag) :
    Prop :=
  ∃ parent openIds register register',
    interpreter.buildTag parent openIds cells node register = .ok (some closed) register'

/-- What a tag is built into as a root of a document, when nothing has been registered. -/
def buildAlone
    (interpreter : Interpreter)
    (cells : Option CellProperties)
    (node : Node) :
    Option ClosedTag :=
  match interpreter.buildTag .root [] cells node {} with
  | .ok built _ => built
  | .error _ _ => none

/-- Whether a workpiece is what a tag, by its rule and in a table or not, is opened with. -/
def OpensWith
    (interpreter : Interpreter)
    (rule : TagRule)
    (inTable : Bool)
    (node : Node)
    (workpiece : Workpiece) :
    Prop :=
  let split :=
    SplitAttributes.ofAttributes interpreter.vocabulary rule.features inTable node.attributes
  ∃ blueprint made attributed,
    BlueprintEffects split.building {} blueprint ∧
      rule.create blueprint = .ok made ∧
      AttributeSteps interpreter split.target ⟨made, []⟩ attributed ∧
      rule.TakesText node blueprint.text.isSome attributed.target workpiece.target ∧
      workpiece.onClose = attributed.onClose

/-- Whether a tag under construction stands as it is opened, with its cell written. -/
def StandsOpened
    (interpreter : Interpreter)
    (rule : TagRule)
    (cells : Option CellProperties)
    (node : Node)
    (assembly : Assembly) :
    Prop :=
  let split :=
    SplitAttributes.ofAttributes interpreter.vocabulary rule.features cells.isSome node.attributes
  ∃ workpiece cell,
    assembly.Stands rule workpiece cell ∧ interpreter.OpensWith rule cells.isSome node workpiece ∧
      CellProperties.ofEntries cells split.cell = .ok cell

/-- What a target becomes by taking in what is built of nodes, by the rule of its tag and with what
the cells of its children start from. -/
inductive TakesInside
    (interpreter : Interpreter)
    (rule : TagRule)
    (cells : Option CellProperties) :
    List Node → Target → Target → Prop where
  | nothing (target : Target) : TakesInside interpreter rule cells [] target target
  | skips
      {node : Node}
      {rest : List Node}
      {target filled : Target}
      (unknown : interpreter.vocabulary.tag? node.name = none)
      (others : TakesInside interpreter rule cells rest target filled) :
      TakesInside interpreter rule cells (node :: rest) target filled
  | takes
      {node : Node}
      {rest : List Node}
      {closed : ClosedTag}
      {target changed filled : Target}
      (builds : interpreter.Builds cells node closed)
      (taken : Assembly.taking rule closed target = .ok changed)
      (others : TakesInside interpreter rule cells rest changed filled) :
      TakesInside interpreter rule cells (node :: rest) target filled

/-- How a tag is built: by its rule, from what it is opened with, which takes in what is built
inside. -/
structure BuildsBy
    (interpreter : Interpreter)
    (cells : Option CellProperties)
    (node : Node)
    (closed : ClosedTag)
    (rule : TagRule)
    (begun : Workpiece)
    (filled : Target) :
    Prop where
  found : interpreter.vocabulary.tag? node.name = some rule
  opens : interpreter.OpensWith rule cells.isSome node begun
  cell :
    CellProperties.ofEntries cells
        (SplitAttributes.ofAttributes interpreter.vocabulary rule.features cells.isSome
          node.attributes).cell =
      .ok closed.cell
  fills : interpreter.TakesInside rule begun.target.childCells? node.children begun.target filled
  closes : Assembly.ClosesTo interpreter.actions ⟨filled, begun.onClose⟩ closed.target

section Steps

variable {interpreter : Interpreter} {register register' : Register}

theorem exists_builds_of_buildAlone
    {cells : Option CellProperties}
    {node : Node}
    (isBuilt : (interpreter.buildAlone cells node).isSome = true) :
    ∃ closed, interpreter.Builds cells node closed := by
  obtain ⟨closed, built⟩ := Option.isSome_iff_exists.1 isBuilt
  unfold buildAlone at built
  cases ran : interpreter.buildTag .root [] cells node {} with
  | error problem register =>
      rw [ran] at built
      cases built
  | ok answer register =>
      rw [ran] at built
      cases built
      exact ⟨closed, _, _, _, register, ran⟩

/-- A tag stands as it is opened after its first steps. -/
theorem beginTag_stands
    {path : TagPath}
    {rule : TagRule}
    {cells : Option CellProperties}
    {node : Node}
    {begun : Assembly}
    (ran : interpreter.beginTag path rule cells node register = .ok begun register') :
    interpreter.StandsOpened rule cells node begun := by
  rw [beginTag_eq] at ran
  obtain ⟨_, opened, _, ran⟩ := bind_eq_ok ran
  refine (Registration.work_eq_ok (· = { path, rule })
    (?_ : Work.Leads _ _ fun _ => interpreter.StandsOpened rule cells node) ran rfl).2
  refine (Assembly.leads_fillBlueprint_effects _ _).bind fun _ => .each ?_
  rintro _ ⟨blueprint, written, rfl⟩
  refine (Assembly.leads_instantiate _).bind fun _ => .each ?_
  rintro _ ⟨_, made, rfl, created, rfl⟩
  refine (Assembly.leads_applyAttributes_steps _ _ rfl).bind fun _ => .each ?_
  rintro _ ⟨attributed, applied, rfl⟩
  refine (Assembly.leads_settle_steps cells _ node rfl rfl).mono (fun _ same => same) ?_
  rintro _ _ ⟨changed, cell, isCell, texted, rfl⟩
  exact ⟨⟨changed, attributed.onClose⟩, cell, ⟨rfl, rfl, rfl, rfl⟩,
    ⟨blueprint, made, attributed, written, created, applied, texted, rfl⟩, isCell⟩

/-- A tag that is taken in changes what the tag around it holds. -/
theorem attach_stands
    {assembly next : Assembly}
    {rule : TagRule}
    {workpiece : Workpiece}
    {cell : CellProperties}
    {child : ClosedTag}
    (stands : assembly.Stands rule workpiece cell)
    (ran : Registration.work assembly (Assembly.attach child) register = .ok next register') :
    ∃ changed,
      Assembly.taking rule child workpiece.target = .ok changed ∧
        next.Stands rule ⟨changed, workpiece.onClose⟩ cell := by
  obtain ⟨_, _, target, changed, rfl, made, taken, rfl⟩ :=
    Registration.work_eq_ok _ (Assembly.leads_attach (· = assembly) child) ran rfl
  obtain ⟨rfl, isTarget, onClose, isCell⟩ := stands
  cases made.symm.trans isTarget
  exact ⟨changed, taken, rfl, rfl, onClose, isCell⟩

/-- What is built inside a tag is taken in by it. -/
theorem buildChildren_stands
    {path : TagPath}
    {openIds : List String}
    {cells : Option CellProperties}
    {assembly filled : Assembly}
    {rule : TagRule}
    {workpiece : Workpiece}
    {cell : CellProperties}
    {nodes : List Node}
    (stands : assembly.Stands rule workpiece cell)
    (ran :
      interpreter.buildChildren path openIds cells assembly nodes register =
        .ok filled register') :
    ∃ target,
      interpreter.TakesInside rule cells nodes workpiece.target target ∧
        filled.Stands rule ⟨target, workpiece.onClose⟩ cell := by
  induction nodes generalizing assembly workpiece register with
  | nil =>
      cases ran
      exact ⟨workpiece.target, .nothing _, stands⟩
  | cons node rest inductionHypothesis =>
      rw [buildChildren] at ran
      obtain ⟨built, between, first, ran⟩ := bind_eq_ok ran
      cases built with
      | none =>
          obtain ⟨target, others, isFilled⟩ := inductionHypothesis stands ran
          refine ⟨target, .skips ?_ others, isFilled⟩
          rw [buildTag_eq] at first
          obtain ⟨admitted, _, admits, first⟩ := bind_eq_ok first
          obtain ⟨_, isAdmitted, _⟩ := admitTag_eq_ok admits
          cases admitted with
          | none =>
              exact isAdmitted
          | some rule =>
              obtain ⟨_, _, _, ⟨⟩⟩ := bind_eq_ok first
      | some closed =>
          obtain ⟨next, attached, attaching, ran⟩ := bind_eq_ok ran
          obtain ⟨changed, taken, stands⟩ := attach_stands stands attaching
          obtain ⟨target, others, isFilled⟩ := inductionHypothesis stands ran
          exact ⟨target, .takes ⟨_, _, _, _, first⟩ taken others, isFilled⟩

/-- A tag closes to what its actions make of its widget, or to its listener with a bare name. -/
theorem closesTo_of_close
    {assembly : Assembly}
    {rule : TagRule}
    {workpiece : Workpiece}
    {cell : CellProperties}
    {openIds : List String}
    {actions : Actions}
    {closed : ClosedTag}
    (stands : assembly.Stands rule workpiece cell)
    (ran : assembly.close openIds actions register = .ok closed register') :
    Assembly.ClosesTo actions workpiece closed.target ∧ closed.cell = cell := by
  obtain ⟨target, onClose⟩ := workpiece
  obtain ⟨rfl, isTarget, rfl, rfl⟩ := stands
  unfold Assembly.close at ran
  dsimp only at ran isTarget
  rw [isTarget] at ran
  cases target with
  | widget widget =>
      obtain ⟨_, registered, _, ran⟩ := bind_eq_ok ran
      obtain ⟨changed, between, closing, ran⟩ := bind_eq_ok ran
      cases ran
      exact ⟨.widget closing, rfl⟩
  | listener listener =>
      obtain ⟨checked, between, isChecked, ran⟩ := bind_eq_ok ran
      cases ran
      cases Assembly.checkListener_eq_ok isChecked with
      | listener _ _ named =>
          exact ⟨.listener named, rfl⟩

/-- A tag that is built is built in these steps. -/
theorem Builds.exists_buildsBy
    {cells : Option CellProperties}
    {node : Node}
    {closed : ClosedTag}
    (builds : interpreter.Builds cells node closed) :
    ∃ rule begun filled, interpreter.BuildsBy cells node closed rule begun filled := by
  obtain ⟨parent, openIds, register, register', ran⟩ := builds
  rw [buildTag_eq] at ran
  obtain ⟨admitted, between, admitting, ran⟩ := bind_eq_ok ran
  obtain ⟨_, found, _⟩ := admitTag_eq_ok admitting
  cases admitted with
  | none =>
      cases ran
  | some rule =>
      obtain ⟨_, _, building, ⟨⟩⟩ := bind_eq_ok ran
      obtain ⟨begun, _, began, building⟩ := bind_eq_ok building
      obtain ⟨filled, _, filling, building⟩ := bind_eq_ok building
      obtain ⟨finished, _, finishing, closing⟩ := bind_eq_ok building
      cases finishing
      obtain ⟨workpiece, cell, stands, opens, isCell⟩ := beginTag_stands began
      obtain ⟨target, fills, isFilled⟩ := buildChildren_stands stands filling
      obtain ⟨closes, rfl⟩ :=
        closesTo_of_close ⟨isFilled.rule, isFilled.target, isFilled.onClose, isFilled.cell⟩ closing
      refine ⟨rule, workpiece, target, found, opens, isCell, ?_, closes⟩
      have sameCells : begun.childCells? = workpiece.target.childCells? := by
        unfold Assembly.childCells? Target.childCells?
        rw [stands.target, Option.bind_some]
      rwa [sameCells] at fills

end Steps

end Interpreter

section Unique

/-- What actions make of a widget does not depend on where they run. -/
theorem Assembly.runOnClose_unique
    {actions : Actions}
    {path path' : TagPath}
    {onClose : List String}
    {widget changed changed' : Widget}
    {register register' after after' : Register}
    (ran : runOnClose path actions widget onClose register = .ok changed after)
    (ran' : runOnClose path' actions widget onClose register' = .ok changed' after') :
    changed = changed' := by
  induction onClose generalizing widget register register' with
  | nil =>
      cases ran
      cases ran'
      rfl
  | cons reference rest inductionHypothesis =>
      obtain ⟨answer, _, invoked, ran⟩ := bind_eq_ok ran
      obtain ⟨answer', _, invoked', ran'⟩ := bind_eq_ok ran'
      obtain ⟨_, _, invoked⟩ := Registration.logged_eq_ok invoked
      obtain ⟨_, _, invoked'⟩ := Registration.logged_eq_ok invoked'
      cases actions.hasOneValue_invokeOn reference widget _ _ _ _ _ _ invoked invoked'
      exact inductionHypothesis ran ran'

theorem Assembly.ClosesTo.unique
    {actions : Actions}
    {workpiece : Workpiece}
    {target target' : Target}
    (closes : ClosesTo actions workpiece target)
    (closes' : ClosesTo actions workpiece target') :
    target = target' := by
  cases closes with
  | widget ran =>
      cases closes' with
      | widget ran' =>
          rw [runOnClose_unique ran ran']
  | listener named =>
      cases closes' with
      | listener named' =>
          cases named.symm.trans named'
          rfl

namespace Interpreter

variable {interpreter : Interpreter}

theorem OpensWith.unique
    (standard : interpreter.vocabulary = .standard)
    {rule : TagRule}
    (isStandard : rule.IsStandard)
    {inTable : Bool}
    {node : Node}
    {workpiece workpiece' : Workpiece}
    (opens : interpreter.OpensWith rule inTable node workpiece)
    (opens' : interpreter.OpensWith rule inTable node workpiece') :
    workpiece = workpiece' := by
  obtain ⟨target, onClose⟩ := workpiece
  obtain ⟨target', onClose'⟩ := workpiece'
  obtain ⟨_, _, _, written, created, applied, texted, rfl⟩ := opens
  obtain ⟨_, _, _, written', created', applied', texted', rfl⟩ := opens'
  cases written.unique written'
  cases created.symm.trans created'
  cases applied.unique standard applied'
  cases texted.unique isStandard texted'
  rfl

theorem Builds.cell_unique
    {cells : Option CellProperties}
    {node : Node}
    {closed closed' : ClosedTag}
    (builds : interpreter.Builds cells node closed)
    (builds' : interpreter.Builds cells node closed') :
    closed.cell = closed'.cell := by
  obtain ⟨_, _, _, steps⟩ := builds.exists_buildsBy
  obtain ⟨_, _, _, steps'⟩ := builds'.exists_buildsBy
  cases steps.found.symm.trans steps'.found
  exact Except.ok.inj (steps.cell.symm.trans steps'.cell)

mutual

/-- What a tag is built into depends on the tag and on whether it is in a table. -/
theorem Builds.target_unique
    (standard : interpreter.vocabulary = .standard) :
    ∀ (node : Node) (cells cells' : Option CellProperties) (closed closed' : ClosedTag),
      cells.isSome = cells'.isSome → interpreter.Builds cells node closed →
        interpreter.Builds cells' node closed' → closed.target = closed'.target
  | ⟨_, _, _, children, _, _⟩, cells, cells', closed, closed', inTable, builds, builds' => by
      obtain ⟨rule, begun, filled, steps⟩ := builds.exists_buildsBy
      obtain ⟨rule', begun', filled', steps'⟩ := builds'.exists_buildsBy
      cases steps.found.symm.trans steps'.found
      have isStandard : rule.IsStandard :=
        Vocabulary.hasStandardRules_standard.tags _ rule (standard ▸ steps.found)
      cases steps.opens.unique standard isStandard (inTable ▸ steps'.opens)
      -- The children start from the cells of what is opened, which is one and the same by now.
      cases TakesInside.unique standard children _ _ _ _ _ steps.fills steps'.fills
      exact steps.closes.unique steps'.closes

/-- What a target becomes by taking in what is built inside it depends on the nodes alone. -/
theorem TakesInside.unique
    (standard : interpreter.vocabulary = .standard) :
    ∀ (nodes : List Node) (rule : TagRule) (cells : Option CellProperties)
      (target filled filled' : Target),
      interpreter.TakesInside rule cells nodes target filled →
        interpreter.TakesInside rule cells nodes target filled' → filled = filled'
  | [], _, _, _, _, _, fills, fills' => by
      cases fills
      cases fills'
      rfl
  | node :: rest, rule, cells, target, filled, filled', fills, fills' => by
      cases fills with
      | skips unknown others =>
          cases fills' with
          | skips _ others' =>
              exact TakesInside.unique standard rest _ _ _ _ _ others others'
          | takes builds' =>
              obtain ⟨_, _, _, steps'⟩ := builds'.exists_buildsBy
              cases unknown.symm.trans steps'.found
      | @takes _ _ closed _ changed _ builds taken others =>
          cases fills' with
          | skips unknown =>
              obtain ⟨_, _, _, steps⟩ := builds.exists_buildsBy
              cases unknown.symm.trans steps.found
          | @takes _ _ closed' _ changed' _ builds' taken' others' =>
              have sameTarget :=
                Builds.target_unique standard node cells cells closed closed' rfl builds builds'
              have same : closed = closed' := by
                cases closed
                cases closed'
                cases sameTarget
                cases builds.cell_unique builds'
                rfl
              cases same
              cases taken.symm.trans taken'
              exact TakesInside.unique standard rest _ _ _ _ _ others others'

end

end Interpreter

end Unique

end WidgetMarkup
