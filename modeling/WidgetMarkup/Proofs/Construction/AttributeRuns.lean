import WidgetMarkup.Proofs.Construction.Beginnings

namespace WidgetMarkup

open Markup

/-!
# What attributes run

Most attributes only write into a target. A few names stand for actions: under some of them an
action runs at once, on the widget as it then is, and under the others its name is kept until the
tag closes. Every run is told with the widget that it is on.
-/

/-- A run of an action: the name that it was started by, and the widget that it is on. -/
structure ActionRun where
  action : String
  widget : Widget

/-- What the journal tells of a run. -/
def ActionRun.call (run : ActionRun) : ActionCall :=
  ⟨run.action, some run.widget.kind, run.widget.id⟩

/-- Whether a journal becomes another one by the calls of some runs and any lines of the log. -/
def Journal.Adds (runs : List ActionRun) (journal journal' : Journal) : Prop :=
  journal'.calls.toList = journal.calls.toList ++ runs.map ActionRun.call

namespace Journal.Adds

variable {runs others : List ActionRun} {journal journal' journal'' : Journal}

theorem of_calls_eq
    (same : journal'.calls = journal.calls) :
    Adds [] journal journal' := by
  rw [Adds, same, List.map_nil, List.append_nil]

theorem trans
    (first : Adds runs journal journal')
    (rest : Adds others journal' journal'') :
    Adds (runs ++ others) journal journal'' := by
  unfold Adds at first rest ⊢
  rw [rest, first, List.map_append, List.append_assoc]

end Journal.Adds

/-- Whether a part of a run, if it succeeds, has no action run; the calls are looked up in the
states of the run. -/
def KeepsCalls {ε σ α : Type} (calls : σ → Array ActionCall) (part : EStateM ε σ α) : Prop :=
  ∀ before value after, part before = .ok value after → calls after = calls before

namespace KeepsCalls

variable {ε σ α β : Type} {calls : σ → Array ActionCall}

theorem pure
    (value : α) :
    KeepsCalls calls (Pure.pure value : EStateM ε σ α) := by
  rintro _ _ _ ⟨⟩
  rfl

theorem throw
    (problem : ε) :
    KeepsCalls calls (MonadExcept.throw problem : EStateM ε σ α) := by
  rintro _ _ _ ⟨⟩

theorem get :
    KeepsCalls calls (MonadState.get : EStateM ε σ σ) := by
  rintro _ _ _ ⟨⟩
  rfl

theorem change
    {change : σ → σ}
    (keeps : ∀ state, calls (change state) = calls state) :
    KeepsCalls calls (modify change : EStateM ε σ PUnit) := by
  rintro before _ _ ⟨⟩
  exact keeps before

theorem bind
    {part : EStateM ε σ α}
    {next : α → EStateM ε σ β}
    (first : KeepsCalls calls part)
    (nexts : ∀ value, KeepsCalls calls (next value)) :
    KeepsCalls calls (part >>= next) := by
  intro before value after ran
  obtain ⟨_, between, given, ran⟩ := bind_eq_ok ran
  exact (nexts _ _ _ _ ran).trans (first _ _ _ given)

end KeepsCalls

namespace Logged

variable {α : Type}

theorem keepsCalls_record
    (level : LogLevel)
    (text : String) :
    KeepsCalls Journal.calls (Logged.record level text) :=
  .change fun _ => rfl

theorem keepsCalls_ofExcept
    (outcome : Except Problem α) :
    KeepsCalls Journal.calls (ofExcept outcome) := by
  cases outcome with
  | ok value =>
      exact .pure value
  | error problem =>
      exact .throw problem

end Logged

namespace Actions

variable {actions : Actions} {reference : String} {journal journal' : Journal}

theorem keepsCalls_forM_record
    (lines : List LogRecord) :
    KeepsCalls Journal.calls (lines.forM fun line => Logged.record line.level line.text) := by
  induction lines with
  | nil =>
      exact .pure _
  | cons first rest inductionHypothesis =>
      exact (Logged.keepsCalls_record _ _).bind fun _ => inductionHypothesis

/-- An action that is started is registered, and the journal tells of it once. -/
theorem start_eq_ok
    {widget : Option Widget}
    {action : Action}
    (ran : actions.start reference widget journal = .ok action journal') :
    actions.find? (bareName reference) = some action ∧
      journal'.calls =
        journal.calls.push
          ⟨bareName reference, widget.map Widget.kind, widget.bind Widget.id⟩ := by
  unfold start at ran
  cases found : actions.find? (bareName reference) with
  | none =>
      rw [found] at ran
      cases ran
  | some registered =>
      rw [found] at ran
      obtain ⟨_, _, recorded, ran⟩ := bind_eq_ok ran
      obtain ⟨_, _, noted, ran⟩ := bind_eq_ok ran
      obtain ⟨_, _, told, ran⟩ := bind_eq_ok ran
      cases ran
      refine ⟨rfl, (keepsCalls_forM_record _ _ _ _ told).trans ?_⟩
      cases noted
      cases recorded
      rfl

/-- A run of an action on a widget is one of an action that is registered, and is told once. -/
theorem invokeOn_adds
    {widget : Widget}
    {answer : Widget × Option String}
    (ran : actions.invokeOn reference widget journal = .ok answer journal') :
    ∃ action,
      actions.find? (bareName reference) = some action ∧ answer = action.onWidget widget ∧
        journal.Adds [⟨bareName reference, widget⟩] journal' := by
  obtain ⟨action, _, started, ran⟩ := bind_eq_ok ran
  cases ran
  obtain ⟨found, told⟩ := start_eq_ok started
  refine ⟨action, found, rfl, ?_⟩
  rw [Journal.Adds, told, Array.toList_push]
  rfl

end Actions

namespace Declaration

/-- The names of the attributes under which an action runs at once. -/
def creatingNames : List String :=
  ["onCreate", "create", "init"]

/-- The names of the attributes under which an action runs when the tag closes. -/
def closingNames : List String :=
  ["onClose", "close"]

/-- Whether no action runs under the name of an attribute. -/
def RunsNothing (name : String) : Prop :=
  lists creatingNames name = false ∧ lists closingNames name = false

instance : DecidablePred RunsNothing :=
  fun name =>
    inferInstanceAs
      (Decidable (lists creatingNames name = false ∧ lists closingNames name = false))

variable {names others : List String} {name : String}

/-- A name that is listed is missing in another list if all names of its list are. -/
theorem lists_eq_false_of_lists
    (each : ∀ other ∈ names, lists others other = false)
    (listed : lists names name = true) :
    lists others name = false := by
  obtain ⟨other, member, same⟩ := List.any_eq_true.1 listed
  rw [← lists_congr same]
  exact each other member

theorem runsNothing_of_lists
    (each : ∀ other ∈ names, RunsNothing other)
    (listed : lists names name = true) :
    RunsNothing name :=
  ⟨lists_eq_false_of_lists (fun other member => (each other member).1) listed,
    lists_eq_false_of_lists (fun other member => (each other member).2) listed⟩

theorem not_closing_of_creating
    (creating : lists creatingNames name = true) :
    lists closingNames name = false :=
  lists_eq_false_of_lists (by decide +kernel) creating

theorem not_creating_of_closing
    (closing : lists closingNames name = true) :
    lists creatingNames name = false :=
  lists_eq_false_of_lists (by decide +kernel) closing

end Declaration

namespace StandardAttribute

open Declaration (RunsNothing creatingNames closingNames)

theorem runs_of_mem_actor :
    ∀ entry ∈ actor,
      entry = (creatingNames, running) ∨ entry = (closingNames, closing) ∨
        ∀ name ∈ entry.1, RunsNothing name := by
  simp only [actor, List.forall_mem_cons, List.mem_nil_iff, false_implies, implies_true, and_true]
  refine ⟨?id, ?visible, ?color, ?click, ?change, ?shown, .inl rfl, .inr (.inl rfl)⟩
  all_goals exact .inr (.inr (by decide +kernel))

/-- Of the attributes of finished targets, one runs actions at once, one has them run later, and
the others have names under which no action runs. -/
theorem runs_of_mem_target :
    ∀ entry ∈ target,
      entry = (creatingNames, running) ∨ entry = (closingNames, closing) ∨
        ∀ name ∈ entry.1, RunsNothing name := by
  have silent : ∀ name ∈ (capability ++ kind ++ listener).flatMap Prod.fst, RunsNothing name := by
    decide +kernel
  intro entry listed
  rw [target, List.append_assoc, List.append_assoc, List.mem_append, ← List.append_assoc] at listed
  rcases listed with ofActors | other
  · exact runs_of_mem_actor entry ofActors
  · exact .inr (.inr (List.forall_mem_flatMap.1 silent entry other))

theorem runsNothing_of_mem_cell :
    ∀ entry ∈ cell, ∀ name ∈ entry.1.cell :: entry.1.default.toList, RunsNothing name := by
  have silent :
      ∀ name ∈ (cell.map Prod.fst).flatMap fun names => names.cell :: names.default.toList,
        RunsNothing name := by
    decide +kernel
  simpa only [List.forall_mem_flatMap, List.forall_mem_map] using silent

end StandardAttribute

namespace Vocabulary

open Declaration (RunsNothing creatingNames closingNames)

variable {ancestry : List TargetKey} {name : String}

/-- What an attribute that is found does with actions is told by its name. -/
theorem runs_of_resolve_standard
    {rule : AttributeRule}
    (found : standard.resolve ancestry name = .found rule) :
    (Declaration.lists creatingNames name = true ∧ rule = StandardAttribute.running) ∨
      (Declaration.lists closingNames name = true ∧ rule = StandardAttribute.closing) ∨
      RunsNothing name := by
  obtain ⟨_, ⟨entry, listed, named, rfl⟩ | ⟨entry, listed, named, _⟩⟩ :=
    exists_of_resolve_standard found
  · rcases StandardAttribute.runs_of_mem_target entry listed with rfl | rfl | silent
    · exact .inl ⟨named, rfl⟩
    · exact .inr (.inl ⟨named, rfl⟩)
    · exact .inr (.inr (Declaration.runsNothing_of_lists silent named))
  · refine .inr (.inr (Declaration.runsNothing_of_lists (fun other member => ?_) named))
    exact StandardAttribute.runsNothing_of_mem_cell entry listed other (.tail _ member)

/-- No action runs under a name that the language does not know. -/
theorem runsNothing_of_resolve_standard_unknown
    (unknown : standard.resolve ancestry name = .unknown) :
    RunsNothing name := by
  have known :
      ∀ other ∈ creatingNames ++ closingNames, (standard.attributes.find? other).isSome := by
    decide +kernel
  have isMissing : standard.attributes.find? name = none := by
    unfold resolve at unknown
    split at unknown
    · split at unknown <;> cases unknown
    · assumption
  have unlisted (names : List String) (isKnown : names ⊆ creatingNames ++ closingNames) :
      Declaration.lists names name = false := by
    refine Bool.eq_false_iff.2 fun listed => ?_
    obtain ⟨other, member, same⟩ := List.any_eq_true.1 listed
    have isSome := known other (isKnown member)
    unfold NameTable.find? at isSome isMissing
    rw [Text.sameName_iff.1 same, isMissing] at isSome
    cases isSome
  exact ⟨unlisted _ (List.subset_append_left ..), unlisted _ (List.subset_append_right ..)⟩

theorem runsNothing_of_building?_standard
    {features : List Feature}
    {rule : BuildingRule}
    (found : standard.building? name features = some rule) :
    RunsNothing name := by
  obtain ⟨_, entry, listed, named, _⟩ := exists_of_building?_standard found
  have silent : ∀ name ∈ StandardAttribute.building.flatMap Prod.fst, RunsNothing name := by
    decide +kernel
  exact Declaration.runsNothing_of_lists (List.forall_mem_flatMap.1 silent entry listed) named

theorem runsNothing_of_cell?_standard
    {rule : CellRule}
    (found : standard.cell? name = some rule) :
    RunsNothing name := by
  obtain ⟨entry, listed, named, _⟩ := exists_of_cell?_standard found
  refine Declaration.runsNothing_of_lists (fun other member => ?_) named
  rw [List.mem_singleton.1 member]
  exact StandardAttribute.runsNothing_of_mem_cell entry listed _ (List.mem_cons_self ..)

end Vocabulary

namespace Markup.Attribute

/-- Whether an action runs at once under the name of an attribute. -/
def isCreating (entry : Attribute) : Bool :=
  Declaration.lists Declaration.creatingNames entry.name

/-- Whether an action runs under the name of an attribute when the tag closes. -/
def isClosing (entry : Attribute) : Bool :=
  Declaration.lists Declaration.closingNames entry.name

end Markup.Attribute

/-- The attributes that are split off for a blueprint or a cell are none of those that are picked by
a name that stands for actions. -/
theorem SplitAttributes.filter_target
    {picks : Attribute → Bool}
    (picksNone : ∀ entry : Attribute, Declaration.RunsNothing entry.name → picks entry = false)
    (features : List Feature)
    (inTable : Bool)
    (attributes : List Attribute) :
    (SplitAttributes.ofAttributes .standard features inTable attributes).target.filter picks =
      attributes.filter picks := by
  induction attributes with
  | nil =>
      rfl
  | cons entry rest inductionHypothesis =>
      unfold SplitAttributes.ofAttributes
      split
      · rename_i found
        have silent := Vocabulary.runsNothing_of_building?_standard found
        rw [List.filter_cons_of_neg (by simp [picksNone entry silent])]
        exact inductionHypothesis
      · split
        · rename_i found
          have silent : Declaration.RunsNothing entry.name := by
            cases inTable with
            | false => cases found
            | true => exact Vocabulary.runsNothing_of_cell?_standard found
          rw [List.filter_cons_of_neg (by simp [picksNone entry silent])]
          exact inductionHypothesis
        · rw [List.filter_cons, List.filter_cons, inductionHypothesis]

/-- The widgets that a target holds. -/
def Target.children? (target : Target) : Option (List Widget) :=
  target.widget?.map Widget.children

/--
What an attribute makes of a target, the actions that it runs, and those that it has run when the
tag closes. One whose name does not stand for actions runs none and leaves alone what a widget
holds; each other attribute runs one action, either at once, on the widget as it then is, or later.
-/
inductive AttributeRun (context : AttributeContext) (raw : String) :
    Target → Target → List ActionRun → List String → Prop where
  | silent
      {target changed : Target}
      (runsNothing : Declaration.RunsNothing context.name)
      (effect : AttributeEffect context raw target changed)
      (sameChildren : changed.children? = target.children?) :
      AttributeRun context raw target changed [] []
  | creates
      {action : Action}
      (widget : Widget)
      (named : Declaration.lists Declaration.creatingNames context.name = true)
      (found : context.actions.find? (Actions.bareName raw) = some action) :
      AttributeRun context raw (.widget widget) (.widget (action.onWidget widget).1)
        [⟨Actions.bareName raw, widget⟩] []
  | closes
      (widget : Widget)
      (named : Declaration.lists Declaration.closingNames context.name = true)
      (registered : context.actions.contains raw) :
      AttributeRun context raw (.widget widget) (.widget widget) [] [Actions.bareName raw]

section Rules

variable
  {context : AttributeContext}
  {raw : String}
  {workpiece workpiece' : Workpiece}
  {journal journal' : Journal}

/-- Whether a rule that succeeds runs no action, keeps those that are to run later, and leaves alone
what a widget holds. -/
def AttributeRule.IsInert (rule : AttributeRule) : Prop :=
  ∀ context raw workpiece workpiece' journal journal',
    rule.apply context raw workpiece journal = .ok workpiece' journal' →
      workpiece'.target.children? = workpiece.target.children? ∧
        workpiece'.onClose = workpiece.onClose ∧ journal'.calls = journal.calls

namespace AttributeRule

variable {α : Type}

theorem isInert_onWidget
    {key : TargetKey}
    {read : AttributeContext → String → Except Problem α}
    {write : α → Widget → Widget}
    (keeps : ∀ value widget, (write value widget).children = widget.children) :
    (onWidget key read write).IsInert := by
  intro context raw workpiece workpiece' journal journal' ran
  obtain ⟨value, _, isRead, ran⟩ := bind_eq_ok ran
  obtain ⟨widget, _, required, ran⟩ := bind_eq_ok ran
  have kept := (Logged.keepsCalls_ofExcept _ _ _ _ required).trans
    (Logged.keepsCalls_ofExcept _ _ _ _ isRead)
  have made := AttributeContext.requireWidget_eq_ok required
  cases ran
  refine ⟨?_, rfl, kept⟩
  rw [made]
  exact congrArg some (keeps value widget)

theorem isInert_onListener
    {read : AttributeContext → String → Except Problem α}
    {write : α → Listener → Listener} :
    (onListener read write).IsInert := by
  intro context raw workpiece workpiece' journal journal' ran
  obtain ⟨value, _, isRead, ran⟩ := bind_eq_ok ran
  obtain ⟨listener, _, required, ran⟩ := bind_eq_ok ran
  have kept := (Logged.keepsCalls_ofExcept _ _ _ _ required).trans
    (Logged.keepsCalls_ofExcept _ _ _ _ isRead)
  have made := AttributeContext.requireListener_eq_ok required
  cases ran
  refine ⟨?_, rfl, kept⟩
  rw [made]
  rfl

theorem isInert_cellDefaults
    (rule : CellRule) :
    (cellDefaults rule).IsInert := by
  intro context raw workpiece workpiece' journal journal' ran
  obtain ⟨widget, _, required, ran⟩ := bind_eq_ok ran
  have kept := Logged.keepsCalls_ofExcept _ _ _ _ required
  have made := AttributeContext.requireWidget_eq_ok required
  cases held : widget.content with
  | table table =>
      simp only [held] at ran
      obtain ⟨defaults, _, applied, ran⟩ := bind_eq_ok ran
      have keptAgain := Logged.keepsCalls_ofExcept _ _ _ _ applied
      cases ran
      refine ⟨?_, rfl, keptAgain.trans kept⟩
      rw [made]
      change some (Widget.children _) = some (Widget.children _)
      unfold Widget.children
      rw [held]
      rfl
  | leaf | single | children =>
      simp only [held] at ran
      cases ran

end AttributeRule

/-- A rule that the language has under a name for which no action runs is inert. -/
theorem AttributeRule.IsListed.isInert
    {names : List String}
    {rule : AttributeRule}
    (isListed : rule.IsListed names)
    (listed : Declaration.lists names context.name = true)
    (runsNothing : Declaration.RunsNothing context.name) :
    rule.IsInert := by
  cases isListed with
  | setting _ keeps _ =>
      exact isInert_onWidget fun value widget => (keeps value widget).children
  | listening =>
      unfold StandardAttribute.listening
      exact isInert_onWidget fun _ _ => rfl
  | onListener =>
      exact isInert_onListener
  | running =>
      cases listed.symm.trans runsNothing.1
  | closing =>
      cases listed.symm.trans runsNothing.2
  | cellDefaults rule =>
      exact isInert_cellDefaults rule

theorem StandardAttribute.running_adds
    {widget : Widget}
    (made : workpiece.target = .widget widget)
    (ran : running.apply context raw workpiece journal = .ok workpiece' journal') :
    ∃ action,
      context.actions.find? (Actions.bareName raw) = some action ∧
        workpiece' = { workpiece with target := .widget (action.onWidget widget).1 } ∧
        journal.Adds [⟨Actions.bareName raw, widget⟩] journal' := by
  obtain ⟨_, _, onTarget, ran⟩ := bind_eq_ok ran
  cases ran
  rw [made] at onTarget
  obtain ⟨_, _, invoked, onTarget⟩ := bind_eq_ok onTarget
  cases onTarget
  obtain ⟨action, found, rfl, adds⟩ := Actions.invokeOn_adds invoked
  exact ⟨action, found, rfl, adds⟩

theorem StandardAttribute.closing_adds
    (ran : closing.apply context raw workpiece journal = .ok workpiece' journal') :
    context.actions.contains raw ∧
      workpiece' =
        { workpiece with onClose := workpiece.onClose ++ [Actions.bareName raw] } ∧
      journal.Adds [] journal' := by
  obtain ⟨name, _, resolved, ran⟩ := bind_eq_ok ran
  have kept := Logged.keepsCalls_ofExcept _ _ _ _ resolved
  obtain ⟨registered, rfl⟩ := Actions.resolve_eq_ok (Logged.ofExcept_eq_ok resolved)
  cases ran
  exact ⟨registered, rfl, .of_calls_eq kept⟩

/-- An attribute that is found for a target and can be applied runs what its name says. -/
theorem AttributeRun.of_resolve_standard
    {rule : AttributeRule}
    (found : Vocabulary.standard.resolve workpiece.target.ancestry context.name = .found rule)
    (ran : rule.apply context raw workpiece journal = .ok workpiece' journal') :
    ∃ runs queued,
      AttributeRun context raw workpiece.target workpiece'.target runs queued ∧
        workpiece'.onClose = workpiece.onClose ++ queued ∧ journal.Adds runs journal' := by
  obtain ⟨key, names, listed, isListed⟩ := Vocabulary.isListed_of_resolve_standard found
  -- Both rules that have to do with actions are for widgets only.
  have isWidget (forActors : rule.key = .kind .actor) :
      ∃ widget, workpiece.target = .widget widget := by
    rw [forActors] at key
    cases made : workpiece.target with
    | widget widget =>
        exact ⟨widget, rfl⟩
    | listener listener =>
        rw [made] at key
        simp [Target.ancestry] at key
  rcases Vocabulary.runs_of_resolve_standard found with
    ⟨named, rfl⟩ | ⟨named, rfl⟩ | runsNothing
  · obtain ⟨widget, made⟩ := isWidget rfl
    obtain ⟨action, registered, rfl, adds⟩ := StandardAttribute.running_adds made ran
    rw [made]
    exact ⟨_, _, .creates widget named registered, (List.append_nil _).symm, adds⟩
  · obtain ⟨widget, made⟩ := isWidget rfl
    obtain ⟨registered, rfl, adds⟩ := StandardAttribute.closing_adds ran
    rw [made]
    exact ⟨_, _, .closes widget named registered, rfl, adds⟩
  · obtain ⟨sameChildren, sameQueue, sameCalls⟩ :=
      isListed.isInert listed runsNothing _ _ _ _ _ _ ran
    exact ⟨_, _, .silent runsNothing (.of_resolve_standard found ran) sameChildren,
      by rw [sameQueue, List.append_nil], .of_calls_eq sameCalls⟩

end Rules

end WidgetMarkup
