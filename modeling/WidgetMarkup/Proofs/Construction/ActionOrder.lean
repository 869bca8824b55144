import WidgetMarkup.Proofs.Construction.AttributeRuns
import WidgetMarkup.Proofs.Construction.Plans
import WidgetMarkup.Proofs.Construction.Successes
import WidgetMarkup.Proofs.Expansion.OutputSize

namespace WidgetMarkup

open Markup

/-!
# The order of actions

A tag that is built runs actions in three places: the attributes that are applied to its fresh
widget run some, the tags inside it run theirs, and those that were put off run when it closes. What
a document has run is told here node by node, with the widgets that the actions ran on, and the
names are read off the nodes.
-/

/-- What attributes, one after another, make of a target, what they run and what they put off; one
that is left out makes nothing. -/
inductive AttributeRuns (interpreter : Interpreter) :
    List Attribute → Target → Target → List ActionRun → List String → Prop where
  | nothing (target : Target) : AttributeRuns interpreter [] target target [] []
  | skips
      {entry : Attribute}
      {entries : List Attribute}
      {target changed : Target}
      {runs : List ActionRun}
      {queue : List String}
      (lenient : interpreter.settings.unknownAttributes = .warn)
      (runsNothing : Declaration.RunsNothing entry.name)
      (rest : AttributeRuns interpreter entries target changed runs queue) :
      AttributeRuns interpreter (entry :: entries) target changed runs queue
  | applies
      {entry : Attribute}
      {entries : List Attribute}
      {target between changed : Target}
      {first runs : List ActionRun}
      {queued queue : List String}
      (applied :
        AttributeRun (Assembly.contextOf interpreter entry) entry.value target between first
          queued)
      (rest : AttributeRuns interpreter entries between changed runs queue) :
      AttributeRuns interpreter (entry :: entries) target changed (first ++ runs)
        (queued ++ queue)

/-- What references to actions, one after another, run on a widget; each action is given what the
one before has made of it. -/
inductive Actions.RunsInTurn (actions : Actions) :
    List String → Widget → Widget → List ActionRun → Prop where
  | nothing (widget : Widget) : RunsInTurn actions [] widget widget []
  | next
      {reference : String}
      {references : List String}
      {action : Action}
      {widget changed : Widget}
      {runs : List ActionRun}
      (found : actions.find? (bareName reference) = some action)
      (rest : RunsInTurn actions references (action.onWidget widget).1 changed runs) :
      RunsInTurn actions (reference :: references) widget changed
        (⟨bareName reference, widget⟩ :: runs)

/-- What a target becomes when its tag closes, and what that runs; a listener runs nothing. -/
inductive ClosingRuns (actions : Actions) (queue : List String) :
    Target → Target → List ActionRun → Prop where
  | widget
      {widget changed : Widget}
      {runs : List ActionRun}
      (inTurn : actions.RunsInTurn queue widget changed runs) :
      ClosingRuns actions queue (.widget widget) (.widget changed) runs
  | listener (listener checked : Listener) :
      ClosingRuns actions queue (.listener listener) (.listener checked) []

namespace Interpreter

/-- Whether a target is what a node, by its rule and in a table or not, is begun with, and what its
attributes have run and put off by then. -/
def BeginsWith
    (interpreter : Interpreter)
    (rule : TagRule)
    (inTable : Bool)
    (node : Node)
    (target : Target)
    (runs : List ActionRun)
    (queue : List String) :
    Prop :=
  let split :=
    SplitAttributes.ofAttributes interpreter.vocabulary rule.features inTable node.attributes
  ∃ blueprint made attributed,
    BlueprintEffects split.building {} blueprint ∧
      rule.create blueprint = .ok made ∧
      AttributeRuns interpreter split.target made attributed runs queue ∧
      TagRule.TextEffects node blueprint.text.isSome attributed target

mutual

/--
What a node is built to and what is run for it. A node that is left out runs nothing; for every
other one, first its attributes run actions on the target that it has just made, then all nodes
inside it run theirs, and then the actions that were put off run on the target that has taken in
what was built inside.
-/
inductive TagRuns (interpreter : Interpreter) : Node → Option Target → List ActionRun → Prop where
  | leftOut
      {node : Node}
      (lenient : interpreter.settings.unknownTags = .warn)
      (unknown : interpreter.vocabulary.tag? node.name = none) :
      TagRuns interpreter node none []
  | builds
      {node : Node}
      {rule : TagRule}
      {inTable : Bool}
      {target filled closed : Target}
      {queue : List String}
      {creating inside closing : List ActionRun}
      (found : interpreter.vocabulary.tag? node.name = some rule)
      (begins : interpreter.BeginsWith rule inTable node target creating queue)
      (fills : InsideRuns interpreter target node.children filled inside)
      (closes : ClosingRuns interpreter.actions queue filled closed closing) :
      TagRuns interpreter node (some closed) (creating ++ inside ++ closing)

/-- What a target becomes by taking in what is built from nodes, one after another, and what is run
for them. -/
inductive InsideRuns (interpreter : Interpreter) :
    Target → List Node → Target → List ActionRun → Prop where
  | nothing (target : Target) : InsideRuns interpreter target [] target []
  | skips
      {target filled : Target}
      {node : Node}
      {rest : List Node}
      {runs others : List ActionRun}
      (leftOut : TagRuns interpreter node none runs)
      (fills : InsideRuns interpreter target rest filled others) :
      InsideRuns interpreter target (node :: rest) filled (runs ++ others)
  | takes
      {target closed changed filled : Target}
      {node : Node}
      {rest : List Node}
      {runs others : List ActionRun}
      (builds : TagRuns interpreter node (some closed) runs)
      (takes : TagRule.TakingEffect closed target changed)
      (fills : InsideRuns interpreter changed rest filled others) :
      InsideRuns interpreter target (node :: rest) filled (runs ++ others)

end

/-- What the roots so far, the newest first, become by further nodes, and what is run for them. -/
inductive RootRuns (interpreter : Interpreter) :
    List Widget → List Node → List Widget → List ActionRun → Prop where
  | nothing (roots : List Widget) : RootRuns interpreter roots [] roots []
  | skips
      {roots final : List Widget}
      {node : Node}
      {rest : List Node}
      {runs others : List ActionRun}
      (leftOut : interpreter.TagRuns node none runs)
      (continues : RootRuns interpreter roots rest final others) :
      RootRuns interpreter roots (node :: rest) final (runs ++ others)
  | places
      {roots next final : List Widget}
      {target : Target}
      {node : Node}
      {rest : List Node}
      {runs others : List ActionRun}
      (builds : interpreter.TagRuns node (some target) runs)
      (places : RootEffect target roots next)
      (continues : RootRuns interpreter next rest final others) :
      RootRuns interpreter roots (node :: rest) final (runs ++ others)

end Interpreter

/-- Whether a step of the work on a tag, if it succeeds, has no action run. -/
abbrev Work.IsQuiet {α : Type} (step : Work α) : Prop :=
  KeepsCalls (fun bench : Bench => bench.journal.calls) step

namespace Work

variable {α : Type}

theorem isQuiet_record
    (level : LogLevel)
    (text : String) :
    (Work.record level text).IsQuiet :=
  .change fun _ => rfl

theorem isQuiet_change
    (change : Assembly → Assembly) :
    (Work.change change).IsQuiet :=
  .change fun _ => rfl

theorem logged_eq_ok
    {inner : Logged α}
    {value : α}
    {bench bench' : Bench}
    (ran : Work.logged inner bench = .ok value bench') :
    ∃ journal, inner bench.journal = .ok value journal ∧ bench' = { bench with journal } := by
  unfold Work.logged at ran
  cases given : inner bench.journal with
  | ok value' journal =>
      rw [given] at ran
      cases ran
      exact ⟨journal, rfl, rfl⟩
  | error problem journal =>
      rw [given] at ran
      cases ran

theorem isQuiet_logged
    {inner : Logged α}
    (keeps : KeepsCalls Journal.calls inner) :
    (Work.logged inner).IsQuiet := by
  intro bench value bench' ran
  obtain ⟨journal, given, rfl⟩ := logged_eq_ok ran
  exact keeps _ _ _ given

theorem onAttribute_eq_ok
    {name : String}
    {step : Work α}
    {value : α}
    {bench bench' : Bench}
    (ran : Work.onAttribute name step bench = .ok value bench') :
    step bench = .ok value bench' := by
  unfold Work.onAttribute at ran
  cases given : step bench with
  | ok value' between =>
      rw [given] at ran
      cases ran
      rfl
  | error problem between =>
      rw [given] at ran
      cases ran

theorem isQuiet_onAttribute
    {step : Work α}
    (isQuiet : step.IsQuiet)
    (name : String) :
    (Work.onAttribute name step).IsQuiet :=
  fun _ _ _ ran => isQuiet _ _ _ (onAttribute_eq_ok ran)

theorem requireTarget_eq_ok
    {target : Target}
    {bench bench' : Bench}
    (ran : Work.requireTarget bench = .ok target bench') :
    bench.assembly.target = some target ∧ bench' = bench := by
  unfold Work.requireTarget at ran
  obtain ⟨_, _, looked, ran⟩ := bind_eq_ok ran
  cases looked
  cases made : bench.assembly.target <;> rw [made] at ran <;> cases ran
  exact ⟨rfl, rfl⟩

theorem isQuiet_requireTarget :
    Work.requireTarget.IsQuiet :=
  fun _ _ _ ran => (requireTarget_eq_ok ran).2 ▸ rfl

end Work

namespace Assembly

open Work (Leads)

/-- Reading what an attribute writes runs nothing. -/
theorem isQuiet_read
    {α : Type}
    (name : String)
    (outcome : Except Problem α) :
    (Work.onAttribute name (Work.logged (Logged.ofExcept outcome))).IsQuiet :=
  Work.isQuiet_onAttribute (Work.isQuiet_logged (Logged.keepsCalls_ofExcept outcome)) name

theorem isQuiet_fillBlueprint
    (entries : List (BuildingRule × Attribute)) :
    (fillBlueprint entries).IsQuiet := by
  induction entries with
  | nil =>
      exact Work.isQuiet_change _
  | cons first rest inductionHypothesis =>
      refine .bind .get fun _ => .bind (Work.isQuiet_record _ _) fun _ => ?_
      exact .bind (isQuiet_read _ _) fun _ =>
        .bind (Work.isQuiet_change _) fun _ => inductionHypothesis

theorem isQuiet_instantiate :
    instantiate.IsQuiet :=
  .bind .get fun _ =>
    .bind (Work.isQuiet_logged (Logged.keepsCalls_ofExcept _)) fun _ => Work.isQuiet_change _

theorem isQuiet_writeCell
    (cell : CellProperties)
    (entries : List (CellRule × Attribute)) :
    (writeCell cell entries).IsQuiet := by
  induction entries generalizing cell with
  | nil =>
      exact .pure _
  | cons first rest inductionHypothesis =>
      exact .bind (isQuiet_read _ _) inductionHypothesis

theorem isQuiet_configureCell
    (defaults : CellProperties)
    (entries : List (CellRule × Attribute)) :
    (configureCell defaults entries).IsQuiet :=
  .bind (isQuiet_writeCell defaults entries) fun _ => Work.isQuiet_change _

theorem isQuiet_attach
    (child : ClosedTag) :
    (attach child).IsQuiet :=
  .bind Work.isQuiet_requireTarget fun _ =>
    .bind .get fun _ =>
      .bind (Work.isQuiet_logged (Logged.keepsCalls_ofExcept _)) fun _ => Work.isQuiet_change _

/-- A tag of the language takes in text without running anything. -/
theorem keepsCalls_takeText
    {rule : TagRule}
    (isStandard : rule.IsStandard)
    (text : String)
    (explicit : Bool)
    (target : Target) :
    KeepsCalls Journal.calls (rule.takeText text explicit target) := by
  have isDefault : rule.takeText = TagRule.takeTextByDefault := by
    cases isStandard <;> rfl
  rw [isDefault]
  unfold TagRule.takeTextByDefault
  cases target with
  | listener listener =>
      dsimp only
      split <;> exact .pure _
  | widget widget =>
      dsimp only
      split
      · split
        · exact .bind (Logged.keepsCalls_record _ _) fun _ => .pure _
        · exact .pure _
      · exact .bind (Logged.keepsCalls_ofExcept _) fun _ => .pure _

theorem takeText_calls
    {text : String}
    {bench bench' : Bench}
    (isStandard : bench.assembly.rule.IsStandard)
    (ran : takeText text bench = .ok () bench') :
    bench'.journal.calls = bench.journal.calls := by
  obtain ⟨_, _, required, taking⟩ := bind_eq_ok ran
  obtain ⟨_, rfl⟩ := Work.requireTarget_eq_ok required
  obtain ⟨_, _, looked, taking⟩ := bind_eq_ok taking
  cases looked
  obtain ⟨_, _, taken, changing⟩ := bind_eq_ok taking
  have kept := Work.isQuiet_logged (keepsCalls_takeText isStandard _ _ _) _ _ _ taken
  cases changing
  exact kept

/-- The last steps before the children of a tag run nothing. -/
theorem settle_calls
    {cells : Option CellProperties}
    {entries : List (CellRule × Attribute)}
    {text : String}
    {bench bench' : Bench}
    (isStandard : bench.assembly.rule.IsStandard)
    (ran : settle cells entries text bench = .ok () bench') :
    bench'.journal.calls = bench.journal.calls := by
  have takes
      {between : Bench}
      (isStandard : between.assembly.rule.IsStandard)
      (ran :
        (if !Text.isBlankText text then takeText text else pure ()) between = .ok () bench') :
      bench'.journal.calls = between.journal.calls := by
    split at ran
    · exact takeText_calls isStandard ran
    · cases ran
      rfl
  cases cells with
  | none =>
      exact takes isStandard ran
  | some defaults =>
      obtain ⟨_, between, configured, ran⟩ := bind_eq_ok ran
      have stillStandard :=
        leads_configureCell (·.rule.IsStandard) (fun _ _ same => same) defaults entries _ _ _
          isStandard configured
      exact (takes stillStandard ran).trans (isQuiet_configureCell _ _ _ _ _ configured)

/-- The last steps before the children of a tag put nothing off. -/
theorem leads_settle_onClose
    (cells : Option CellProperties)
    (entries : List (CellRule × Attribute))
    (text : String)
    (queue : List String) :
    Leads (·.onClose = queue) (settle cells entries text) fun _ after =>
      after.onClose = queue := by
  have takes :
      Leads (·.onClose = queue) (if !Text.isBlankText text then takeText text else pure ())
        fun _ after => after.onClose = queue := by
    split
    · refine (leads_takeText _ text).mono (fun _ same => same) ?_
      rintro _ _ ⟨_, _, _, _, _, same, _, _, rfl⟩
      exact same
    · exact .pure fun _ same => same
  cases cells with
  | none =>
      exact takes
  | some defaults =>
      exact (leads_configureCell _ (fun _ _ same => same) defaults entries).bind fun _ => takes

/-- An attribute of the language that is applied runs what its name says, and one that is left out
has a name for which nothing runs. -/
theorem applyAttribute_runs
    {interpreter : Interpreter}
    (standard : interpreter.vocabulary = .standard)
    {entry : Attribute}
    {target : Target}
    {bench bench' : Bench}
    (made : bench.assembly.target = some target)
    (ran : applyAttribute interpreter entry bench = .ok () bench') :
    (interpreter.settings.unknownAttributes = .warn ∧ Declaration.RunsNothing entry.name ∧
        bench'.assembly = bench.assembly ∧ bench.journal.Adds [] bench'.journal) ∨
      ∃ changed runs queued,
        AttributeRun (contextOf interpreter entry) entry.value target changed runs queued ∧
          bench'.assembly =
            { bench.assembly with
              target := some changed
              onClose := bench.assembly.onClose ++ queued } ∧
          bench.journal.Adds runs bench'.journal := by
  obtain ⟨_, _, required, applying⟩ := bind_eq_ok ran
  obtain ⟨isMade, rfl⟩ := Work.requireTarget_eq_ok required
  cases made.symm.trans isMade
  obtain ⟨_, _, looked, applying⟩ := bind_eq_ok applying
  cases looked
  split at applying
  · rename_i rule found
    obtain ⟨_, _, recorded, applying⟩ := bind_eq_ok applying
    cases recorded
    obtain ⟨workpiece, _, logged, applying⟩ := bind_eq_ok applying
    obtain ⟨journal, given, rfl⟩ := Work.logged_eq_ok (Work.onAttribute_eq_ok logged)
    cases applying
    rw [standard] at found
    obtain ⟨runs, queued, attributeRun, isQueue, adds⟩ :=
      AttributeRun.of_resolve_standard found given
    exact .inr ⟨_, runs, queued, attributeRun, by rw [isQueue], adds⟩
  · cases Work.onAttribute_eq_ok applying
  · rename_i unknown
    rw [standard] at unknown
    have runsNothing := Vocabulary.runsNothing_of_resolve_standard_unknown unknown
    split at applying
    · cases Work.onAttribute_eq_ok applying
    · rename_i lenient
      cases applying
      exact .inl ⟨lenient, runsNothing, rfl, .of_calls_eq rfl⟩

theorem applyAttributes_runs
    {interpreter : Interpreter}
    (standard : interpreter.vocabulary = .standard)
    {entries : List Attribute}
    {target : Target}
    {bench bench' : Bench}
    (made : bench.assembly.target = some target)
    (ran : applyAttributes interpreter entries bench = .ok () bench') :
    ∃ changed runs queue,
      AttributeRuns interpreter entries target changed runs queue ∧
        bench'.assembly =
          { bench.assembly with
            target := some changed
            onClose := bench.assembly.onClose ++ queue } ∧
        bench.journal.Adds runs bench'.journal := by
  induction entries generalizing target bench with
  | nil =>
      cases ran
      refine ⟨target, [], [], .nothing target, ?_, .of_calls_eq rfl⟩
      rw [← made, List.append_nil]
  | cons entry rest inductionHypothesis =>
      obtain ⟨_, between, first, ran⟩ := bind_eq_ok ran
      rcases applyAttribute_runs standard made first with
        ⟨lenient, runsNothing, same, adds⟩ | ⟨changed, runs, queued, applied, same, adds⟩
      · obtain ⟨changed, runs, queue, others, isLast, addsOthers⟩ :=
          inductionHypothesis (same ▸ made) ran
        exact ⟨changed, runs, queue, .skips lenient runsNothing others, same ▸ isLast,
          adds.trans addsOthers⟩
      · obtain ⟨final, others, queue, attributeRuns, isLast, addsOthers⟩ :=
          inductionHypothesis (congrArg Assembly.target same) ran
        refine ⟨final, runs ++ others, queued ++ queue, .applies applied attributeRuns, ?_,
          adds.trans addsOthers⟩
        rw [isLast, same, List.append_assoc]

end Assembly

section Steps

variable {register register' : Register}

theorem Registration.work_eq_ok_bench
    {assembly result : Assembly}
    {step : Work Unit}
    (ran : Registration.work assembly step register = .ok result register') :
    ∃ bench,
      step ⟨assembly, register.journal⟩ = .ok () bench ∧ result = bench.assembly ∧
        register'.journal = bench.journal := by
  unfold Registration.work at ran
  cases given : step ⟨assembly, register.journal⟩ with
  | ok _ bench =>
      rw [given] at ran
      cases ran
      exact ⟨bench, rfl, rfl, rfl⟩
  | error problem bench =>
      rw [given] at ran
      cases ran

theorem Registration.logged_eq_ok_journal
    {α : Type}
    {path : TagPath}
    {inner : Logged α}
    {value : α}
    (ran : Registration.logged path inner register = .ok value register') :
    inner register.journal = .ok value register'.journal := by
  unfold Registration.logged at ran
  cases given : inner register.journal with
  | ok value' journal =>
      rw [given] at ran
      cases ran
      rfl
  | error problem journal =>
      rw [given] at ran
      cases ran

/-- A tag that is begun has run what its attributes say, and knows what is put off. -/
theorem Interpreter.beginTag_runs
    {interpreter : Interpreter}
    (standard : interpreter.vocabulary = .standard)
    {path : TagPath}
    {rule : TagRule}
    {cells : Option CellProperties}
    {node : Node}
    {begun : Assembly}
    (isStandard : rule.IsStandard)
    (ran : interpreter.beginTag path rule cells node register = .ok begun register') :
    ∃ target runs,
      interpreter.BeginsWith rule cells.isSome node target runs begun.onClose ∧
        begun.Made (· = target) ∧ register.journal.Adds runs register'.journal := by
  rw [beginTag_eq] at ran
  obtain ⟨_, _, recorded, ran⟩ := bind_eq_ok ran
  cases recorded
  obtain ⟨bench, worked, rfl, isLast⟩ := Registration.work_eq_ok_bench ran
  obtain ⟨_, filled, filling, worked⟩ := bind_eq_ok worked
  obtain ⟨blueprint, written, isFilled⟩ :=
    Assembly.leads_fillBlueprint_effects _ _ _ _ _ rfl filling
  obtain ⟨_, created, creating, worked⟩ := bind_eq_ok worked
  obtain ⟨_, made, rfl, isMade, isCreated⟩ :=
    Assembly.leads_instantiate (· = filled.assembly) _ _ _ rfl creating
  obtain ⟨_, between, applying, settling⟩ := bind_eq_ok worked
  obtain ⟨attributed, runs, queue, applied, isApplied, adds⟩ :=
    Assembly.applyAttributes_runs standard (congrArg Assembly.target isCreated) applying
  have betweenRule : between.assembly.rule = rule := by
    rw [isApplied, isCreated, isFilled]
  have stillStandard : between.assembly.rule.IsStandard := betweenRule ▸ isStandard
  have betweenBlueprint : between.assembly.blueprint = blueprint := by
    rw [isApplied, isCreated, isFilled]
  have betweenQueue : between.assembly.onClose = queue := by
    rw [isApplied, isCreated, isFilled]
    rfl
  obtain ⟨lastStandard, target, isTarget, texted⟩ :=
    Assembly.leads_settle_effects cells _ node blueprint attributed _ _ _
      ⟨stillStandard, betweenBlueprint, isApplied ▸ rfl⟩ settling
  have isQueue := Assembly.leads_settle_onClose _ _ _ queue _ _ _ betweenQueue settling
  refine ⟨target, runs, ⟨blueprint, made, attributed, written, ?_, isQueue ▸ applied, texted⟩,
    ⟨lastStandard, target, isTarget, rfl⟩, ?_⟩
  · rw [← isMade, isFilled]
  · have before : created.journal.calls = register.journal.calls :=
      (Assembly.isQuiet_instantiate _ _ _ creating).trans
        (Assembly.isQuiet_fillBlueprint _ _ _ _ filling)
    have after := Assembly.settle_calls stillStandard settling
    unfold Journal.Adds at adds ⊢
    rw [isLast, after, adds, before]

namespace Assembly

variable {path : TagPath} {actions : Actions}

theorem runOnClose_runs
    {widget changed : Widget}
    {queue : List String}
    (ran : runOnClose path actions widget queue register = .ok changed register') :
    ∃ runs,
      actions.RunsInTurn queue widget changed runs ∧
        register.journal.Adds runs register'.journal := by
  induction queue generalizing widget register with
  | nil =>
      cases ran
      exact ⟨[], .nothing _, .of_calls_eq rfl⟩
  | cons reference rest inductionHypothesis =>
      obtain ⟨answer, between, invoked, ran⟩ := bind_eq_ok ran
      obtain ⟨action, found, rfl, adds⟩ :=
        Actions.invokeOn_adds (Registration.logged_eq_ok_journal invoked)
      obtain ⟨runs, inTurn, addsRest⟩ := inductionHypothesis ran
      exact ⟨_, .next found inTurn, adds.trans addsRest⟩

theorem registerId_calls
    {widget : Widget}
    (ran : registerId path widget register = .ok () register') :
    register'.journal.calls = register.journal.calls := by
  unfold registerId at ran
  cases identified : widget.id with
  | none =>
      rw [identified] at ran
      cases ran
      rfl
  | some id =>
      rw [identified] at ran
      obtain ⟨seen, _, looked, ran⟩ := bind_eq_ok ran
      cases looked
      split at ran <;> cases ran
      rfl

theorem keepsCalls_checkListener
    (path : TagPath)
    (openIds : List String)
    (actions : Actions)
    (listener : Listener) :
    KeepsCalls (fun register : Register => register.journal.calls)
      (checkListener path openIds actions listener) := by
  unfold checkListener
  cases listener.action with
  | none =>
      exact .throw _
  | some reference =>
      refine .bind ?_ fun _ => .bind .get fun _ => ?_
      · exact fun _ _ _ ran =>
          Logged.keepsCalls_ofExcept _ _ _ _ (Registration.logged_eq_ok_journal ran)
      · split
        · exact .throw _
        · exact .pure _

/-- A tag that closes runs what was put off. -/
theorem close_runs
    {assembly : Assembly}
    {openIds : List String}
    {target : Target}
    {closed : ClosedTag}
    (made : assembly.target = some target)
    (ran : assembly.close openIds actions register = .ok closed register') :
    ∃ runs,
      ClosingRuns actions assembly.onClose target closed.target runs ∧
        register.journal.Adds runs register'.journal := by
  unfold close at ran
  dsimp only at ran
  rw [made] at ran
  cases target with
  | widget widget =>
      obtain ⟨_, identified, registering, ran⟩ := bind_eq_ok ran
      obtain ⟨changed, between, closing, ran⟩ := bind_eq_ok ran
      cases ran
      obtain ⟨runs, inTurn, adds⟩ := runOnClose_runs closing
      have before := registerId_calls registering
      exact ⟨runs, .widget inTurn, Journal.Adds.trans (.of_calls_eq before) adds⟩
  | listener listener =>
      obtain ⟨checked, between, checking, ran⟩ := bind_eq_ok ran
      cases ran
      have before := keepsCalls_checkListener _ _ _ _ _ _ _ checking
      exact ⟨[], .listener listener checked, .of_calls_eq before⟩

/-- A tag that takes in another one runs nothing and forgets nothing that is put off. -/
theorem attach_runs
    {assembly next : Assembly}
    {target : Target}
    {child : ClosedTag}
    (made : assembly.Made (· = target))
    (ran : Registration.work assembly (attach child) register = .ok next register') :
    next.onClose = assembly.onClose ∧ register.journal.Adds [] register'.journal ∧
      ∃ changed, TagRule.TakingEffect child.target target changed ∧ next.Made (· = changed) := by
  obtain ⟨_, taking⟩ := attach_eq_ok made ran
  obtain ⟨bench, worked, rfl, isLast⟩ := Registration.work_eq_ok_bench ran
  refine ⟨?_, .of_calls_eq ?_, taking⟩
  · obtain ⟨_, _, _, rfl, _, _, isNext⟩ := leads_attach (· = assembly) child _ _ _ rfl worked
    rw [isNext]
  · rw [isLast]
    exact isQuiet_attach child _ _ _ worked

end Assembly

end Steps

namespace Interpreter

variable {interpreter : Interpreter} {register register' : Register}

theorem admitTag_calls
    {path : TagPath}
    {node : Node}
    {admitted : Option TagRule}
    (ran : interpreter.admitTag path node register = .ok admitted register') :
    register'.journal.calls = register.journal.calls := by
  unfold admitTag at ran
  split at ran
  · cases ran
  · cases found : interpreter.vocabulary.tag? node.name with
    | some rule =>
        rw [found] at ran
        cases ran
        rfl
    | none =>
        rw [found] at ran
        cases strictness : interpreter.settings.unknownTags <;> rw [strictness] at ran <;>
          cases ran
        rfl

/-- A tag runs what its steps run if what is inside it does. -/
theorem tagRuns_of_inside
    (standard : interpreter.vocabulary = .standard)
    {node : Node}
    (children :
      ∀ path openIds cells assembly target filled register register',
        assembly.Made (· = target) →
          interpreter.buildChildren path openIds cells assembly node.children register =
            .ok filled register' →
          ∃ changed runs,
            filled.Made (· = changed) ∧ filled.onClose = assembly.onClose ∧
              interpreter.InsideRuns target node.children changed runs ∧
              register.journal.Adds runs register'.journal)
    {parent : TagPath}
    {openIds : List String}
    {cells : Option CellProperties}
    {built : Option ClosedTag}
    (ran : interpreter.buildTag parent openIds cells node register = .ok built register') :
    ∃ runs,
      interpreter.TagRuns node (built.map ClosedTag.target) runs ∧
        register.journal.Adds runs register'.journal := by
  rw [buildTag_eq] at ran
  obtain ⟨admitted, between, admitting, ran⟩ := bind_eq_ok ran
  obtain ⟨_, found, lenient⟩ := admitTag_eq_ok admitting
  have sameCalls := admitTag_calls admitting
  cases admitted with
  | none =>
      cases ran
      exact ⟨[], .leftOut (lenient rfl) found, .of_calls_eq sameCalls⟩
  | some rule =>
      obtain ⟨closed, _, building, ran⟩ := bind_eq_ok ran
      cases ran
      obtain ⟨begun, _, beginning, building⟩ := bind_eq_ok building
      obtain ⟨filled, _, filling, building⟩ := bind_eq_ok building
      obtain ⟨finished, _, finishing, closing⟩ := bind_eq_ok building
      cases finishing
      have isStandard : rule.IsStandard :=
        Vocabulary.hasStandardRules_standard.tags _ rule (standard ▸ found)
      obtain ⟨target, creating, begins, isBegun, addsCreating⟩ :=
        beginTag_runs standard isStandard beginning
      obtain ⟨changed, inside, ⟨_, _, isFilled, rfl⟩, sameQueue, fills, addsInside⟩ :=
        children _ _ _ _ _ _ _ _ isBegun filling
      obtain ⟨atClose, closes, addsClosing⟩ := Assembly.close_runs isFilled closing
      have closes : ClosingRuns interpreter.actions filled.onClose _ _ _ := closes
      rw [sameQueue] at closes
      refine ⟨_, .builds found begins fills closes, ?_⟩
      have addsAll := (addsCreating.trans addsInside).trans addsClosing
      exact (Journal.Adds.of_calls_eq sameCalls).trans addsAll

mutual

/-- What is run for a tag that is built is what its node runs. -/
theorem tagRuns_of_buildTag
    (standard : interpreter.vocabulary = .standard) :
    ∀ node parent openIds cells built register register',
      interpreter.buildTag parent openIds cells node register = .ok built register' →
        ∃ runs,
          interpreter.TagRuns node (built.map ClosedTag.target) runs ∧
            register.journal.Adds runs register'.journal
  | ⟨_, _, _, children, _, _⟩, _, _, _, _, _, _, ran =>
      tagRuns_of_inside standard (insideRuns_of_buildChildren standard children) ran

/-- What is run for all that is built inside a tag is what its nodes run. -/
theorem insideRuns_of_buildChildren
    (standard : interpreter.vocabulary = .standard) :
    ∀ nodes path openIds cells assembly target filled register register',
      assembly.Made (· = target) →
        interpreter.buildChildren path openIds cells assembly nodes register =
          .ok filled register' →
        ∃ changed runs,
          filled.Made (· = changed) ∧ filled.onClose = assembly.onClose ∧
            interpreter.InsideRuns target nodes changed runs ∧
            register.journal.Adds runs register'.journal
  | [], _, _, _, _, target, _, _, _, made, ran => by
      cases ran
      exact ⟨target, [], made, rfl, .nothing target, .of_calls_eq rfl⟩
  | node :: rest, path, openIds, cells, assembly, target, filled, register, register', made,
      ran => by
      rw [buildChildren] at ran
      obtain ⟨built, between, first, ran⟩ := bind_eq_ok ran
      obtain ⟨runs, tagRuns, adds⟩ := tagRuns_of_buildTag standard node _ _ _ _ _ _ first
      cases built with
      | none =>
          obtain ⟨changed, others, isFilled, sameQueue, fills, addsOthers⟩ :=
            insideRuns_of_buildChildren standard rest _ _ _ _ _ _ _ _ made ran
          exact ⟨changed, _, isFilled, sameQueue, .skips tagRuns fills, adds.trans addsOthers⟩
      | some closed =>
          obtain ⟨next, attached, attaching, ran⟩ := bind_eq_ok ran
          obtain ⟨keptQueue, addsNone, between, takes, made⟩ :=
            Assembly.attach_runs made attaching
          obtain ⟨changed, others, isFilled, sameQueue, fills, addsOthers⟩ :=
            insideRuns_of_buildChildren standard rest _ _ _ _ _ _ _ _ made ran
          exact ⟨changed, _, isFilled, sameQueue.trans keptQueue, .takes tagRuns takes fills,
            adds.trans (addsNone.trans addsOthers)⟩

end

theorem rootRuns_of_buildRoots
    (standard : interpreter.vocabulary = .standard)
    {nodes : List Node}
    {roots widgets : List Widget}
    (ran : interpreter.buildRoots roots nodes register = .ok widgets register') :
    ∃ runs,
      interpreter.RootRuns roots nodes widgets.reverse runs ∧
        register.journal.Adds runs register'.journal := by
  induction nodes generalizing roots register with
  | nil =>
      cases ran
      rw [List.reverse_reverse]
      exact ⟨[], .nothing roots, .of_calls_eq rfl⟩
  | cons node rest inductionHypothesis =>
      rw [buildRoots] at ran
      obtain ⟨built, between, first, ran⟩ := bind_eq_ok ran
      obtain ⟨runs, tagRuns, adds⟩ := tagRuns_of_buildTag standard _ _ _ _ _ _ _ first
      cases built with
      | none =>
          obtain ⟨others, continues, addsOthers⟩ := inductionHypothesis ran
          exact ⟨_, .skips tagRuns continues, adds.trans addsOthers⟩
      | some closed =>
          dsimp only at ran
          cases placed : placeRoot node closed roots with
          | error problem =>
              rw [placed] at ran
              cases ran
          | ok next =>
              rw [placed] at ran
              obtain ⟨others, continues, addsOthers⟩ := inductionHypothesis ran
              exact ⟨_, .places tagRuns (.of_placeRoot placed) continues, adds.trans addsOthers⟩

/-- A document that is built from nodes has run what they run, after what was told before. -/
theorem rootRuns_of_runConstruction
    (standard : interpreter.vocabulary = .standard)
    {journal : Journal}
    {nodes : List Node}
    {document : Document}
    (ran : (interpreter.runConstruction journal nodes).result = .ok document) :
    ∃ runs,
      interpreter.RootRuns [] nodes document.roots.reverse runs ∧
        journal.Adds runs (interpreter.runConstruction journal nodes).journal := by
  unfold runConstruction build at ran ⊢
  cases built : interpreter.buildRoots [] nodes { journal } with
  | error problem register =>
      simp only [bind, EStateM.bind, built] at ran
      cases ran
  | ok widgets register =>
      simp only [bind, EStateM.bind, built] at ran ⊢
      cases ran
      exact rootRuns_of_buildRoots standard built

end Interpreter

end WidgetMarkup
