import WidgetMarkup.Proofs.Expansion.Bindings
import WidgetMarkup.Proofs.Vocabulary.StyleTables

namespace WidgetMarkup

open Markup
open Expansion (Event Moment OnlyLogs Outcome Task)
open StyleSheet (Comprises Definition definitionsOf)

/-!
# The styles in force

At every moment of an expansion, the styles are those of the interpreter with the definitions that
macros have made until then, in the order in which the macros were expanded: nothing else changes
them, and no scope, tag, template or macro call restores them when it ends.
-/

namespace Expansion

/-- Whether two tasks are of one kind, so that one may be what is left of the other. -/
def Task.isOfKind : Task → Task → Bool
  | .forest _ _, .forest _ _ => true
  | .node _ _, .node _ _ => true
  | .script _ _, .script _ _ => true
  | _, _ => false

/-- Whether nothing is left to do of a task. -/
def Task.isOver : Task → Bool
  | .forest [] _ => true
  | .script _ (.finish _ _) => true
  | _ => false

/-- The definition that a moment makes in its own right, if any. -/
def Moment.definitions (moment : Moment) : List Definition :=
  match moment.task with
  | .script _ (.addDefault tag entry _) => [(tag, entry)]
  | _ => []

/-- Where there is only logging, the styles stay as they are. -/
theorem OnlyLogs.styles_eq
    {α : Type}
    {inner : Expansion α}
    {progress after : Progress}
    {value : α}
    (onlyLogs : OnlyLogs inner)
    (ran : inner progress = .ok value after) :
    after.styles = progress.styles := by
  obtain ⟨journal, rfl⟩ := onlyLogs.of_ok ran
  rfl

end Expansion

namespace Interpreter

/-- Whether a moment begins a task of its own on behalf of another one. -/
def Descends (interpreter : Interpreter) (earlier later : Moment) : Prop :=
  interpreter.Proceeds earlier later ∧ earlier.task.isOfKind later.task = false

/-- Whether a moment goes on with what is left of the task of another one. -/
def Continues (interpreter : Interpreter) (earlier later : Moment) : Prop :=
  interpreter.Proceeds earlier later ∧ earlier.task.isOfKind later.task = true

/-- The definitions of defaults that a task makes from a moment until it is over, in the order in
which they are made. -/
inductive Makes (interpreter : Interpreter) : Moment → List Definition → Prop where
  | ended {moment}
      (isOver : moment.task.isOver = true) :
      Makes interpreter moment []
  /-- Nothing is begun on behalf of the moment. -/
  | alone {moment later made}
      (nothing : ∀ inner, ¬ interpreter.Descends moment inner)
      (continues : interpreter.Continues moment later)
      (rest : Makes interpreter later made) :
      Makes interpreter moment (moment.definitions ++ made)
  /-- A node is what it begins. -/
  | inside {node scope progress inner made}
      (descends : interpreter.Descends ⟨.node node scope, progress⟩ inner)
      (first : Makes interpreter inner made) :
      Makes interpreter ⟨.node node scope, progress⟩ made
  /-- What is begun on behalf of the moment is over before it goes on. -/
  | both {moment inner later made made'}
      (descends : interpreter.Descends moment inner)
      (first : Makes interpreter inner made)
      (continues : interpreter.Continues moment later)
      (rest : Makes interpreter later made') :
      Makes interpreter moment (made ++ made')

/-- The definitions of defaults that are made from one moment until another one comes, in the order
in which they are made. -/
inductive MakesUntil (interpreter : Interpreter) :
    Moment → List Definition → Moment → Prop where
  | here {moment} :
      MakesUntil interpreter moment [] moment
  | alone {moment later made last}
      (nothing : ∀ inner, ¬ interpreter.Descends moment inner)
      (continues : interpreter.Continues moment later)
      (rest : MakesUntil interpreter later made last) :
      MakesUntil interpreter moment (moment.definitions ++ made) last
  /-- The other moment comes in what is begun on behalf of this one. -/
  | inside {moment inner made last}
      (descends : interpreter.Descends moment inner)
      (first : MakesUntil interpreter inner made last) :
      MakesUntil interpreter moment made last
  /-- What is begun on behalf of the moment is over before the other one comes. -/
  | both {moment inner later made made' last}
      (descends : interpreter.Descends moment inner)
      (first : Makes interpreter inner made)
      (continues : interpreter.Continues moment later)
      (rest : MakesUntil interpreter later made' last) :
      MakesUntil interpreter moment (made ++ made') last

variable {interpreter : Interpreter} {earlier inner later start moment : Moment}

/-- A step without any nodes adds the definition of its moment to the styles. -/
theorem styles_of_step
    {script next : Script}
    {step : Expansion Script}
    {rule : MacroRule}
    {progress between : Progress}
    (isStep : interpreter.step? script = some step)
    (ran : step progress = .ok next between) :
    between.styles =
      progress.styles.addAll (Moment.definitions ⟨.script rule script, progress⟩) := by
  cases script <;> simp only [step?, Option.some.injEq, reduceCtorEq] at isStep <;> subst isStep
  case fail problem =>
    cases ran
  case interpolate raw scope next =>
    exact ((interpreter.onlyLogs_interpolate scope raw).map next).styles_eq ran
  case evaluate source scope next =>
    exact ((interpreter.onlyLogs_evaluate scope source).map next).styles_eq ran
  case invoke reference next =>
    exact ((interpreter.onlyLogs_invoke reference).map next).styles_eq ran
  all_goals
    cases ran
    rfl

/-- What is begun on behalf of a moment begins with its styles. -/
theorem Descends.styles_eq
    (descends : interpreter.Descends earlier later) :
    later.progress.styles = earlier.progress.styles := by
  obtain ⟨proceeds, other⟩ := descends
  cases proceeds with
  | visit charged =>
      obtain ⟨_, rfl⟩ := charge_eq_ok charged
      rfl
  | inside isTag prepared =>
      have kept := (onlyLogs_prepareTag _ _).styles_eq prepared
      exact kept
  | call isCall found shallow prepared =>
      have kept := (onlyLogs_prepareCall _ _ _ _).styles_eq prepared
      exact kept
  | pass =>
      rfl
  | insertion loaded =>
      obtain ⟨_, _, rfl⟩ := loadTemplate_eq_ok loaded
      rfl
  | others | iteration | step | afterPass | afterInsertion =>
      cases other

/-- A moment that begins nothing goes on with its own definition. -/
theorem Continues.styles_eq_of_alone
    (continues : interpreter.Continues earlier later)
    (nothing : ∀ inner, ¬ interpreter.Descends earlier inner) :
    later.progress.styles = earlier.progress.styles.addAll earlier.definitions := by
  obtain ⟨proceeds, same⟩ := continues
  cases proceeds with
  | others charged first =>
      exact absurd ⟨.visit charged, rfl⟩ (nothing _)
  | iteration charged =>
      obtain ⟨_, rfl⟩ := charge_eq_ok charged
      rfl
  | step isStep ran =>
      exact styles_of_step isStep ran
  | afterPass passed =>
      exact absurd ⟨.pass, rfl⟩ (nothing _)
  | afterInsertion loaded passed =>
      exact absurd ⟨.insertion loaded, rfl⟩ (nothing _)
  | visit | inside | call | pass | insertion =>
      cases same

/-- A moment that begins a task goes on with the styles that this leaves. -/
theorem Continues.styles_eq_of_descends
    (continues : interpreter.Continues earlier later)
    (descends : interpreter.Descends earlier inner) :
    ∃ value between,
      interpreter.perform inner.task inner.progress = .ok value between ∧
        later.progress.styles = between.styles := by
  obtain ⟨goesOn, same⟩ := continues
  obtain ⟨begins, other⟩ := descends
  cases goesOn with
  | others charged first =>
      cases begins with
      | visit charged' =>
          cases charged.symm.trans charged'
          exact ⟨_, _, first, rfl⟩
      | others =>
          cases other
  | afterPass passed =>
      cases begins with
      | pass =>
          exact ⟨_, _, passed, rfl⟩
      | step isStep =>
          cases isStep
      | afterPass =>
          cases other
  | afterInsertion loaded passed =>
      cases begins with
      | insertion loaded' =>
          cases loaded.symm.trans loaded'
          exact ⟨_, _, passed, rfl⟩
      | step isStep =>
          cases isStep
      | afterInsertion =>
          cases other
  | iteration charged =>
      cases begins with
      | iteration =>
          cases other
      | step isStep =>
          cases isStep
  | step isStep ran =>
      cases begins with
      | step | iteration | afterPass | afterInsertion =>
          cases other
      | pass | insertion =>
          cases isStep
  | visit | inside | call | pass | insertion =>
      cases same

/-- What is left of a task that succeeds succeeds in the same way. -/
theorem Continues.exists_ok
    (continues : interpreter.Continues earlier later)
    {value : List Node × Scope}
    {after : Progress}
    (ran : interpreter.perform earlier.task earlier.progress = .ok value after) :
    ∃ value', interpreter.perform later.task later.progress = .ok value' after := by
  obtain ⟨goesOn, same⟩ := continues
  cases goesOn with
  | others charged first =>
      obtain ⟨_, _, _, others, charged', first', ended, _⟩ := expandNodes_cons_eq_ok ran
      cases charged.symm.trans charged'
      cases first.symm.trans first'
      exact ⟨others, ended⟩
  | iteration charged =>
      rw [perform, runScript, Expansion.bind_apply, charged] at ran
      exact ⟨value, ran⟩
  | step isStep stepped =>
      rw [perform, runScript_of_step isStep, Expansion.bind_apply, stepped] at ran
      exact ⟨value, ran⟩
  | afterPass passed =>
      rw [perform, runScript, Expansion.bind_apply, passed] at ran
      exact ⟨value, ran⟩
  | afterInsertion loaded passed =>
      simp only [perform, runScript, insertTemplate_eq, Expansion.bind_apply, loaded,
        Expansion.importing, passed] at ran
      exact ⟨value, ran⟩
  | visit | inside | call | pass | insertion =>
      cases same

/-- What a node begins succeeds if the node does, and leaves its styles. -/
theorem Descends.exists_ok_of_node
    {node : Node}
    {scope : Scope}
    {progress after : Progress}
    {value : List Node × Scope}
    (descends : interpreter.Descends ⟨.node node scope, progress⟩ inner)
    (ran : interpreter.perform (.node node scope) progress = .ok value after) :
    ∃ value' between,
      interpreter.perform inner.task inner.progress = .ok value' between ∧
        after.styles = between.styles := by
  obtain ⟨begins, _⟩ := descends
  obtain ⟨_, expands⟩ := exists_expands _ ran 0
  generalize succeeded : EStateM.Result.ok value after = outcome at expands
  cases begins with
  | inside isTag prepared =>
      cases expands with
      | tag _ prepared' children =>
          cases prepared.symm.trans prepared'
          obtain ⟨value', between, rfl, -⟩ := Outcome.adapt_eq_ok succeeded.symm
          cases succeeded
          exact ⟨value', between, children.perform_eq, rfl⟩
      | unfilled | unknown | refused | unprepared =>
          cases succeeded
      | called isCall =>
          rw [isTag] at isCall
          cases isCall
  | call isCall found shallow prepared =>
      cases expands with
      | called _ found' _ prepared' body =>
          cases found.symm.trans found'
          cases prepared.symm.trans prepared'
          obtain ⟨value', between, rfl, -⟩ := Outcome.adapt_eq_ok succeeded.symm
          cases succeeded
          exact ⟨value', between, body.perform_eq, rfl⟩
      | unfilled | unknown | refused | unprepared =>
          cases succeeded
      | tag isTag =>
          rw [isTag] at isCall
          cases isCall

/-- What is over changes nothing any more. -/
theorem eq_of_isOver
    {task : Task}
    {progress after : Progress}
    {value : List Node × Scope}
    (isOver : task.isOver = true)
    (ran : interpreter.perform task progress = .ok value after) :
    after = progress := by
  unfold Task.isOver at isOver
  split at isOver
  · rw [perform, expandNodes_nil] at ran
    cases ran
    rfl
  · cases ran
    rfl
  · cases isOver

/-- What a task that succeeds leaves of the styles are those that it began with and the
definitions that it makes. -/
theorem Makes.styles_eq
    {made : List Definition}
    (makes : interpreter.Makes moment made)
    {value : List Node × Scope}
    {after : Progress}
    (ran : interpreter.perform moment.task moment.progress = .ok value after) :
    after.styles = moment.progress.styles.addAll made := by
  induction makes generalizing value after with
  | ended isOver =>
      rw [eq_of_isOver isOver ran]
      rfl
  | alone nothing continues _ inductionHypothesis =>
      obtain ⟨value', ran⟩ := continues.exists_ok ran
      rw [inductionHypothesis ran, continues.styles_eq_of_alone nothing,
        StyleSheet.addAll_append]
  | inside descends _ inductionHypothesis =>
      obtain ⟨value', between, ended, same⟩ := descends.exists_ok_of_node ran
      rw [same, inductionHypothesis ended, descends.styles_eq]
  | both descends _ continues _ first others =>
      obtain ⟨_, between, ended, same⟩ := continues.styles_eq_of_descends descends
      obtain ⟨value', ran⟩ := continues.exists_ok ran
      rw [others ran, same, first ended, descends.styles_eq, StyleSheet.addAll_append]

/-- The styles at a moment are those of an earlier one with the definitions made until then. -/
theorem MakesUntil.styles_eq
    {made : List Definition}
    (makes : interpreter.MakesUntil start made moment) :
    moment.progress.styles = start.progress.styles.addAll made := by
  induction makes with
  | here =>
      rfl
  | alone nothing continues _ inductionHypothesis =>
      rw [inductionHypothesis, continues.styles_eq_of_alone nothing, StyleSheet.addAll_append]
  | inside descends _ inductionHypothesis =>
      rw [inductionHypothesis, descends.styles_eq]
  | both descends first continues _ inductionHypothesis =>
      obtain ⟨_, between, ended, same⟩ := continues.styles_eq_of_descends descends
      rw [inductionHypothesis, same, first.styles_eq ended, descends.styles_eq,
        StyleSheet.addAll_append]

/-- Paying for a repetition begins nothing. -/
theorem not_descends_of_charge
    {rule : MacroRule}
    {next : Script}
    {progress : Progress} :
    ∀ inner, ¬ interpreter.Descends ⟨.script rule (.charge next), progress⟩ inner := by
  rintro inner ⟨proceeds, other⟩
  cases proceeds with
  | iteration =>
      cases other
  | step isStep =>
      cases isStep

/-- A step without any nodes begins nothing. -/
theorem not_descends_of_step
    {rule : MacroRule}
    {script : Script}
    {step : Expansion Script}
    {progress : Progress}
    (isStep : interpreter.step? script = some step) :
    ∀ inner, ¬ interpreter.Descends ⟨.script rule script, progress⟩ inner := by
  rintro inner ⟨proceeds, other⟩
  cases proceeds with
  | pass | insertion =>
      cases isStep
  | iteration | step | afterPass | afterInsertion =>
      cases other

/-- A task that succeeds makes some definitions, or none. -/
theorem Expands.exists_makes
    {active : Nat}
    {task : Task}
    {progress after : Progress}
    {events : List Event}
    {outcome : Outcome}
    {value : List Node × Scope}
    (expands : interpreter.Expands active task progress events outcome)
    (succeeded : outcome = .ok value after) :
    ∃ made, interpreter.Makes ⟨task, progress⟩ made := by
  induction expands generalizing value after with
  | nothing | finished =>
      exact ⟨_, .ended rfl⟩
  | unpaid | stopped | unfilled | unknown | refused | unprepared | unpaidIteration | failedStep
  | failedPass | unloaded | failedInsertion =>
      cases succeeded
  | visited charged firstRun _ first others =>
      obtain ⟨_, _, ended, -⟩ := Outcome.adapt_eq_ok succeeded
      obtain ⟨made, makes⟩ := first rfl
      obtain ⟨made', makes'⟩ := others ended
      exact ⟨_, .both ⟨.visit charged, rfl⟩ makes
        ⟨.others charged firstRun.perform_eq, rfl⟩ makes'⟩
  | tag isTag prepared _ children =>
      obtain ⟨_, _, ended, -⟩ := Outcome.adapt_eq_ok succeeded
      obtain ⟨made, makes⟩ := children ended
      exact ⟨_, .inside ⟨.inside isTag prepared, rfl⟩ makes⟩
  | called isCall found shallow prepared _ body =>
      obtain ⟨_, _, ended, -⟩ := Outcome.adapt_eq_ok succeeded
      obtain ⟨made, makes⟩ := body ended
      exact ⟨_, .inside ⟨.call isCall found shallow prepared, rfl⟩ makes⟩
  | iteration charged _ rest =>
      obtain ⟨made, makes⟩ := rest succeeded
      exact ⟨_, .alone not_descends_of_charge ⟨.iteration charged, rfl⟩ makes⟩
  | step isStep ran _ rest =>
      obtain ⟨made, makes⟩ := rest succeeded
      exact ⟨_, .alone (not_descends_of_step isStep) ⟨.step isStep ran, rfl⟩ makes⟩
  | pass passRun _ pass rest =>
      obtain ⟨made, makes⟩ := pass rfl
      obtain ⟨made', makes'⟩ := rest succeeded
      exact ⟨_, .both ⟨.pass, rfl⟩ makes ⟨.afterPass passRun.perform_eq, rfl⟩ makes'⟩
  | insertion loaded passRun _ pass rest =>
      obtain ⟨made, makes⟩ := pass rfl
      obtain ⟨made', makes'⟩ := rest succeeded
      exact ⟨_, .both ⟨.insertion loaded, rfl⟩ makes
        ⟨.afterInsertion loaded passRun.perform_eq, rfl⟩ makes'⟩

/-- From one moment to the next, some definitions are made, or none. -/
theorem Proceeds.exists_makesUntil
    (proceeds : interpreter.Proceeds earlier later)
    {made : List Definition}
    (makes : interpreter.MakesUntil later made moment) :
    ∃ made', interpreter.MakesUntil earlier made' moment := by
  cases kind : earlier.task.isOfKind later.task with
  | false =>
      exact ⟨_, .inside ⟨proceeds, kind⟩ makes⟩
  | true =>
      have continues : interpreter.Continues earlier later := ⟨proceeds, kind⟩
      cases proceeds with
      | others charged first =>
          obtain ⟨_, visited⟩ := exists_expands (.node _ _) first 0
          obtain ⟨_, before⟩ := visited.exists_makes rfl
          exact ⟨_, .both ⟨.visit charged, rfl⟩ before continues makes⟩
      | iteration charged =>
          exact ⟨_, .alone not_descends_of_charge continues makes⟩
      | step isStep ran =>
          exact ⟨_, .alone (not_descends_of_step isStep) continues makes⟩
      | afterPass passed =>
          obtain ⟨_, pass⟩ := exists_expands (.forest _ _) passed 0
          obtain ⟨_, before⟩ := pass.exists_makes rfl
          exact ⟨_, .both ⟨.pass, rfl⟩ before continues makes⟩
      | afterInsertion loaded passed =>
          obtain ⟨_, pass⟩ := exists_expands (.forest _ _) passed 0
          obtain ⟨_, before⟩ := pass.exists_makes rfl
          exact ⟨_, .both ⟨.insertion loaded, rfl⟩ before continues makes⟩
      | visit | inside | call | pass | insertion =>
          cases kind

/-- Until each moment that is reached, some definitions are made, or none. -/
theorem Reaches.exists_makesUntil
    (reaches : interpreter.Reaches start moment) :
    ∃ made, interpreter.MakesUntil start made moment := by
  induction reaches using Relation.ReflTransGen.head_induction_on with
  | refl =>
      exact ⟨_, .here⟩
  | head first _ inductionHypothesis =>
      obtain ⟨_, makes⟩ := inductionHypothesis
      exact first.exists_makesUntil makes

/-- A style macro makes a definition for each tag that it lists, one after another. -/
theorem makes_style
    {call : MacroCall}
    {tags name value : String}
    (hasTags : call.attribute? "tag" = some tags)
    (hasName : call.attribute? "name" = some name)
    (hasValue : call.attribute? "value" = some value)
    (scope : Scope)
    (progress : Progress) :
    interpreter.Makes
      ⟨.script StandardMacro.style (StandardMacro.style.script interpreter.sources call scope),
        progress⟩
      ((interpreter.sources.items tags).map fun tag => (tag, ⟨name, value⟩)) := by
  simp only [StandardMacro.style, MacroCall.require, hasTags, hasName, hasValue]
  induction interpreter.sources.items tags generalizing progress with
  | nil =>
      exact .ended rfl
  | cons tag rest inductionHypothesis =>
      exact .alone (not_descends_of_step rfl) ⟨.step rfl rfl, rfl⟩ (inductionHypothesis _)

/-- A tag that is prepared has its own attributes, filled in, completed by the styles in force. -/
theorem attributes_of_prepareTag
    {node : Node}
    {scope : Scope}
    {progress ready : Progress}
    {prepared : List Attribute × String}
    (ran : interpreter.prepareTag node scope progress = .ok prepared ready) :
    ∃ filled between,
      interpreter.interpolateAttributes scope node.attributes progress = .ok filled between ∧
        prepared.1 = progress.styles.complete node.name filled := by
  rw [prepareTag] at ran
  obtain ⟨filled, between, interpolated, ran⟩ := bind_eq_ok ran
  have sameStyles := (interpreter.onlyLogs_interpolateAttributes _ _).styles_eq interpolated
  obtain ⟨current, _, got, ran⟩ := bind_eq_ok ran
  cases got
  refine ⟨filled, between, interpolated, ?_⟩
  rw [← sameStyles]
  split at ran <;>
  · obtain ⟨text, _, _, ran⟩ := bind_eq_ok ran
    cases ran
    rfl

/-- A tag that is expanded has its own attributes, filled in, completed by the styles in force. -/
theorem attributes_of_expandNode
    {node : Node}
    {scope left : Scope}
    {progress after : Progress}
    {expanded : List Node}
    (isTag : interpreter.isMacroCall progress node = false)
    (ran : interpreter.expandNode node scope progress = .ok (expanded, left) after) :
    ∃ filled between children text,
      interpreter.interpolateAttributes scope node.attributes
          { progress with path := progress.path.child node.name (node.attribute? "id") } =
        .ok filled between ∧
      expanded =
        [⟨node.name, false, progress.styles.complete node.name filled, children, text,
          node.position⟩] := by
  obtain ⟨_, expands⟩ := exists_expands (.node node scope) ran 0
  generalize succeeded : EStateM.Result.ok (expanded, left) after = outcome at expands
  cases expands with
  | tag _ prepared children =>
      obtain ⟨_, _, _, same⟩ := Outcome.adapt_eq_ok succeeded.symm
      cases same
      obtain ⟨filled, between, interpolated, completed⟩ := attributes_of_prepareTag prepared
      rw [completed]
      exact ⟨filled, between, _, _, interpolated, rfl⟩
  | unfilled | unknown | refused | unprepared =>
      cases succeeded
  | called isCall =>
      rw [isTag] at isCall
      cases isCall

/--
Whatever styles an interpreter has been given by definitions, at every moment of every expansion
the styles in force are those of these definitions and of the ones that macros have made until then,
in their order. The defaults of a tag are, for each name once, its last definition, in the order of
the first ones. To complete attributes by them leaves these as they are and puts behind them
exactly the defaults that they lack, in that order; what is complete is not changed again. So it is
for each tag that is expanded at that moment, its own attributes having been filled in.
-/
theorem styles_reached
    {definitions : List Definition}
    {request : Request}
    (styled : interpreter.styles = .ofDefinitions definitions)
    (opens : interpreter.Opens request start)
    (reaches : interpreter.Reaches start moment) :
    (∃ made, interpreter.MakesUntil start made moment) ∧
    (∀ made, interpreter.MakesUntil start made moment →
      moment.progress.styles = .ofDefinitions (definitions ++ made) ∧
        ∀ tag,
          Comprises (definitionsOf tag (definitions ++ made))
            (moment.progress.styles.defaultsOf tag)) ∧
    (∀ tag attributes,
      let complete := moment.progress.styles.complete tag attributes
      let lacks := fun entry : Attribute => !Attribute.isPresent entry.name attributes
      complete = attributes ++ (moment.progress.styles.defaultsOf tag).filter lacks ∧
        moment.progress.styles.complete tag complete = complete) ∧
    (∀ node scope expanded left after,
      interpreter.isMacroCall moment.progress node = false →
        interpreter.expandNode node scope moment.progress = .ok (expanded, left) after →
          ∃ filled between children text,
            interpreter.interpolateAttributes scope node.attributes
                { moment.progress with
                  path := moment.progress.path.child node.name (node.attribute? "id") } =
              .ok filled between ∧
            Attribute.names filled = Attribute.names node.attributes ∧
            expanded =
              [⟨node.name, false, moment.progress.styles.complete node.name filled, children, text,
                node.position⟩]) ∧
    ∀ call scope progress tags name value,
      call.attribute? "tag" = some tags → call.attribute? "name" = some name →
        call.attribute? "value" = some value →
          interpreter.Makes
            ⟨.script StandardMacro.style
              (StandardMacro.style.script interpreter.sources call scope), progress⟩
            ((interpreter.sources.items tags).map fun tag => (tag, ⟨name, value⟩)) := by
  have stylesAt {made : List Definition} (makes : interpreter.MakesUntil start made moment) :
      moment.progress.styles = .ofDefinitions (definitions ++ made) := by
    have initial : start.progress.styles = interpreter.styles := by
      cases opens <;> rfl
    rw [makes.styles_eq, initial, styled, StyleSheet.ofDefinitions, StyleSheet.ofDefinitions,
      StyleSheet.addAll_append]
  obtain ⟨made, makes⟩ := reaches.exists_makesUntil
  have comprises (tag : String) :
      Comprises (definitionsOf tag (definitions ++ made))
        (moment.progress.styles.defaultsOf tag) := by
    rw [stylesAt makes]
    exact StyleSheet.comprises_defaultsOf _ tag
  refine ⟨⟨made, makes⟩, fun made makes => ⟨stylesAt makes, fun tag => ?table⟩,
    fun tag attributes => ⟨?appended, ?again⟩,
    fun node scope expanded left after isTag ran => ?tag,
    fun call scope progress tags name value hasTags hasName hasValue =>
      makes_style hasTags hasName hasValue scope progress⟩
  case table =>
    rw [stylesAt makes]
    exact StyleSheet.comprises_defaultsOf _ tag
  case appended =>
    exact StyleSheet.complete_eq (comprises tag).distinct attributes
  case again =>
    exact StyleSheet.complete_complete (comprises tag).distinct attributes
  case tag =>
    obtain ⟨filled, between, children, text, interpolated, same⟩ :=
      attributes_of_expandNode isTag ran
    exact ⟨filled, between, children, text, interpolated, names_interpolateAttributes interpolated,
      same⟩

/-- A style macro redefines the first of two defaults, which keeps its place. -/
theorem styles_reached_redefinition :
    let definitions : List Definition := [("label", ⟨"wrap", "true"⟩), ("label", ⟨"text", "x"⟩)]
    let interpreter : Interpreter :=
      { vocabulary := .standard, styles := .ofDefinitions definitions }
    ∃ start moment made,
      interpreter.Opens
          (.document "<:style tag=\"label\" name=\"wrap\" value=\"false\"/><label/>") start ∧
        interpreter.Reaches start moment ∧ interpreter.MakesUntil start made moment ∧
        Comprises (definitionsOf "label" (definitions ++ made))
          [⟨"wrap", "false"⟩, ⟨"text", "x"⟩] ∧
        moment.progress.styles.complete "label" [⟨"text", "y"⟩] =
          [⟨"text", "y"⟩, ⟨"wrap", "false"⟩] := by
  intro definitions interpreter
  let source := "<:style tag=\"label\" name=\"wrap\" value=\"false\"/><label/>"
  let style : Node :=
    { name := "style", isMacro := true, position := ⟨1, 1⟩,
      attributes := [⟨"tag", "label"⟩, ⟨"name", "wrap"⟩, ⟨"value", "false"⟩] }
  let label : Node := { name := "label", position := ⟨1, 48⟩ }
  have isSource : (forestOfSource ':' source).toOption = some [style, label] := by
    decide +kernel
  have read : forestOfSource interpreter.settings.marker source = .ok [style, label] := by
    change forestOfSource ':' source = _
    cases same : forestOfSource ':' source <;> rw [same] at isSource <;> cases isSource
    rfl
  let paid : Progress := { interpreter.beginning [] with charged := 1 }
  have charged : interpreter.charge (interpreter.beginning []) = .ok () paid :=
    rfl
  have shown :
      Outcome.seen? (fun _ after => after.styles.defaultsOf "label")
          (interpreter.expandNode style .empty paid) =
        some [⟨"wrap", "false"⟩, ⟨"text", "x"⟩] := by
    decide +kernel
  obtain ⟨⟨expanded, left⟩, between, ran, defaults⟩ := Outcome.exists_ok_of_seen shown
  have styled : interpreter.styles = .ofDefinitions definitions := rfl
  have opens : interpreter.Opens (.document source)
      ⟨.forest [style, label] .empty, interpreter.beginning []⟩ := .document read
  have reaches : interpreter.Reaches ⟨.forest [style, label] .empty, interpreter.beginning []⟩
      ⟨.forest [label] left, between⟩ := .single (.others charged ran)
  obtain ⟨⟨made, makes⟩, tables, completes, _⟩ := styles_reached styled opens reaches
  have comprises := (tables made makes).2 "label"
  refine ⟨_, _, made, opens, reaches, makes, ?_, ?_⟩
  · rwa [← defaults]
  · rw [(completes "label" [⟨"text", "y"⟩]).1, defaults]
    decide +kernel

end Interpreter

end WidgetMarkup
