import WidgetMarkup.Proofs.Expansion.Moments
import WidgetMarkup.Proofs.Vocabulary.ScopedScripts

namespace WidgetMarkup

open Markup
open Expansion (Event Task Moment Outcome)

/-!
# Where names are bound

A scope changes only where a macro that binds names is called in it: among the nodes that are
expanded in it, or among those that transparent macros there have expanded in the same scope. What
is bound inside tags, loops, templates and macros of documents is bound in scopes of their own.
-/

/-- Whether a task begins in a scope, in which its nodes are expanded. -/
def Expansion.Task.BeginsIn (scope : Scope) : Task → Prop
  | .forest _ inner => inner = scope
  | .node _ inner => inner = scope
  | .script rule steps => rule ∈ StandardMacro.transparent ∧ steps.StaysIn scope

namespace Interpreter

/-- Whether a node is a call of a macro. -/
structure Calls
    (interpreter : Interpreter)
    (progress : Progress)
    (node : Node)
    (rule : MacroRule) :
    Prop where
  isCall :
    interpreter.isMacroCall progress node = true
  found :
    interpreter.findMacro? progress node.name = some rule

/-- Whether the nodes that are expanded on behalf of a moment are expanded in the scope that it
begins in. -/
def IsInPlace (interpreter : Interpreter) (moment : Moment) : Prop :=
  match moment.task with
  | .forest _ _ => True
  | .node node _ =>
      ∃ rule, interpreter.Calls moment.progress node rule ∧ rule ∈ StandardMacro.transparent
  | .script rule _ => rule ∈ StandardMacro.transparent

/-- The moments that come next on behalf of a moment in the scope that it begins in. -/
def ProceedsInPlace (interpreter : Interpreter) (earlier later : Moment) : Prop :=
  interpreter.IsInPlace earlier ∧ interpreter.Proceeds earlier later

/-- Whether a moment is reached from another one through transparent macros alone. -/
def ReachesInPlace (interpreter : Interpreter) : Moment → Moment → Prop :=
  Relation.ReflTransGen interpreter.ProceedsInPlace

/-- Whether a call of a macro that binds names, reached through transparent macros alone, has an
attribute of a name. -/
def BindsInPlace (interpreter : Interpreter) (start : Moment) (name : String) : Prop :=
  ∃ node scope progress rule,
    interpreter.ReachesInPlace start ⟨.node node scope, progress⟩ ∧
      interpreter.Calls progress node rule ∧ rule ∈ StandardMacro.binding ∧
      name ∈ Attribute.names node.attributes

/-- Whether a node has a scope of its own inside: it is no macro call, or one of a loop, a template
or a macro that the document has defined. -/
def Encloses (interpreter : Interpreter) (progress : Progress) (node : Node) : Prop :=
  ∀ rule, interpreter.Calls progress node rule →
    rule ∈ StandardMacro.enclosing ∨ progress.macros.find? node.name = some rule

/-- Whether a node has a scope of its own inside, whatever macros the document has defined. -/
def AlwaysEncloses (interpreter : Interpreter) (node : Node) : Prop :=
  node.isMacro = false ∧ (interpreter.vocabulary.tag? node.name).isSome = true ∨
    ∀ rule, interpreter.vocabulary.macroRule? node.name = some rule →
      rule ∈ StandardMacro.enclosing

variable {interpreter : Interpreter} {start earlier later : Moment}

/-- What is bound on behalf of a moment is bound on behalf of those that it is reached from. -/
theorem BindsInPlace.of_reachesInPlace
    {name : String}
    (binds : interpreter.BindsInPlace later name)
    (reaches : interpreter.ReachesInPlace earlier later) :
    interpreter.BindsInPlace earlier name := by
  obtain ⟨node, scope, progress, rule, inPlace, binds⟩ := binds
  exact ⟨node, scope, progress, rule, reaches.trans inPlace, binds⟩

/-- What is reached in place is reached. -/
theorem ReachesInPlace.reaches
    (reaches : interpreter.ReachesInPlace earlier later) :
    interpreter.Reaches earlier later :=
  Relation.ReflTransGen.mono (fun _ _ => And.right) _ _ reaches

/-- A macro that is found binds names, has its children expanded in place, or leaves the scope as it
was. -/
theorem scoping_of_findMacro?
    (standard : interpreter.vocabulary = .standard)
    {progress : Progress}
    (defines : progress.DefinesUserMacros)
    {name : String}
    {rule : MacroRule}
    (found : interpreter.findMacro? progress name = some rule) :
    rule ∈ StandardMacro.binding ∨ rule ∈ StandardMacro.transparent ∨ rule.Encloses := by
  rw [findMacro?] at found
  cases defined : progress.macros.find? name with
  | some rule' =>
      rw [defined] at found
      cases found
      obtain ⟨definition, rfl⟩ := defines name rule defined
      exact .inr (.inr definition.encloses_toRule)
  | none =>
      rw [defined, standard] at found
      obtain ⟨entry, listed, _, rfl⟩ := Vocabulary.exists_of_macroRule?_standard found
      exact StandardMacro.scoping_of_mem_all listed

theorem names_interpolateAttributes
    {scope : Scope}
    {attributes filled : List Attribute}
    {progress after : Progress}
    (ran : interpreter.interpolateAttributes scope attributes progress = .ok filled after) :
    Attribute.names filled = Attribute.names attributes := by
  induction attributes generalizing filled progress after with
  | nil =>
      cases ran
      rfl
  | cons entry rest inductionHypothesis =>
      rw [interpolateAttributes] at ran
      obtain ⟨value, between, _, ran⟩ := bind_eq_ok ran
      obtain ⟨others, left, filled, ran⟩ := bind_eq_ok ran
      cases ran
      exact congrArg (entry.name :: ·) (inductionHypothesis filled)

/-- Filling in the attributes of a macro call keeps their names. -/
theorem names_of_prepareCall
    {rule : MacroRule}
    {node : Node}
    {scope : Scope}
    {path : TagPath}
    {progress ready : Progress}
    {call : MacroCall}
    (prepared : interpreter.prepareCall rule node scope path progress = .ok call ready) :
    Attribute.names call.attributes = Attribute.names node.attributes := by
  unfold prepareCall at prepared
  split at prepared
  · obtain ⟨attributes, between, filled, prepared⟩ := bind_eq_ok prepared
    cases prepared
    exact names_interpolateAttributes filled
  · cases prepared
    rfl

/-- What a script leaves is of the kind that all scopes are that it may leave. -/
theorem leaves_of_runScript
    {holds : Scope → Prop}
    {script : Script}
    {progress after : Progress}
    {nodes : List Node}
    {left : Scope}
    (leaves : script.Leaves holds)
    (ran :
      interpreter.runScript interpreter.expandNodes script progress = .ok (nodes, left) after) :
    holds left := by
  induction script generalizing progress with
  | finish nodes scope =>
      cases ran
      exact leaves
  | fail problem =>
      cases ran
  | charge next inductionHypothesis =>
      rw [runScript] at ran
      obtain ⟨_, paid, _, ran⟩ := bind_eq_ok ran
      exact inductionHypothesis leaves ran
  | expand nodes scope next inductionHypothesis =>
      rw [runScript] at ran
      obtain ⟨value, between, _, ran⟩ := bind_eq_ok ran
      exact inductionHypothesis value.1 value.2 (leaves _ _) ran
  | insertTemplate _ _ _ _ next inductionHypothesis
  | interpolate raw scope next inductionHypothesis
  | evaluate source scope next inductionHypothesis
  | invoke reference next inductionHypothesis =>
      rw [runScript] at ran
      obtain ⟨answer, between, _, ran⟩ := bind_eq_ok ran
      exact inductionHypothesis answer (leaves answer) ran
  | define name interpolates body next _ inductionHypothesis =>
      exact inductionHypothesis leaves ran
  | addDefault tag entry next inductionHypothesis
  | record level text next inductionHypothesis =>
      exact inductionHypothesis leaves ran

/-- A step without any nodes keeps a script that stays in a scope there. -/
theorem staysIn_of_step
    {script next : Script}
    {inner : Expansion Script}
    {progress between : Progress}
    {scope : Scope}
    (isStep : interpreter.step? script = some inner)
    (stays : script.StaysIn scope)
    (ran : inner progress = .ok next between) :
    next.StaysIn scope := by
  cases script <;> simp only [step?, Option.some.injEq, reduceCtorEq] at isStep <;> subst isStep
  case fail problem =>
    cases ran
  case evaluate source inner next =>
    obtain ⟨value, _, rfl⟩ := Expansion.map_eq_ok ran
    exact stays value
  case interpolate | invoke | define | addDefault | record =>
    exact stays.elim

/-- What is bound on behalf of the next moment in place is bound on behalf of the one before it. -/
theorem becomes_before
    {scope left : Scope}
    (proceeds : interpreter.Proceeds earlier later)
    (inPlace : interpreter.IsInPlace earlier)
    (becomes : scope.Becomes (interpreter.BindsInPlace later) left) :
    scope.Becomes (interpreter.BindsInPlace earlier) left :=
  becomes.mono fun _ binds => binds.of_reachesInPlace (.single ⟨inPlace, proceeds⟩)

/--
A task that succeeds leaves the scope that it begins in, but for the names that are bound in place.
-/
theorem Expands.becomes
    {active : Nat}
    {task : Task}
    {progress after : Progress}
    {events : List Event}
    {outcome : Outcome}
    {scope : Scope}
    {value : List Node × Scope}
    (expands : interpreter.Expands active task progress events outcome)
    (standard : interpreter.vocabulary = .standard)
    (lawful : Moment.IsLawful ⟨task, progress⟩)
    (begins : task.BeginsIn scope)
    (succeeded : outcome = .ok value after) :
    scope.Becomes (interpreter.BindsInPlace ⟨task, progress⟩) value.2 := by
  -- The induction is on the history. Scripts are followed only where they stay in the scope, so
  -- that repetitions and templates, whose scopes are their own, do not come up.
  induction expands generalizing scope value after with
  | nothing =>
      cases succeeded
      obtain rfl : _ = scope := begins
      exact .refl _ _
  | unpaid | stopped | unfilled | unknown | refused | unprepared | unpaidIteration | failedStep
  | failedPass | unloaded | failedInsertion =>
      cases succeeded
  | @visited _ node rest scope start paid _ _ _ _ _ _ charged firstRun _ first others =>
      obtain ⟨_, _, ended, rfl⟩ := Outcome.adapt_eq_ok succeeded
      cases begins
      have visits : interpreter.Proceeds ⟨.forest (node :: rest) scope, start⟩ _ := .visit charged
      have goesOn : interpreter.Proceeds ⟨.forest (node :: rest) scope, start⟩ _ :=
        .others charged firstRun.perform_eq
      have visited := first (visits.isLawful standard lawful) rfl rfl
      have later := others (goesOn.isLawful standard lawful) rfl ended
      exact (becomes_before visits trivial visited).trans (becomes_before goesOn trivial later)
  | tag isTag prepared _ _ =>
      obtain ⟨_, _, _, rfl⟩ := Outcome.adapt_eq_ok succeeded
      obtain rfl : _ = scope := begins
      exact .refl _ _
  | @called _ node scope _ rule call _ _ _ isCall found shallow prepared bodyRun body =>
      obtain ⟨_, _, ended, rfl⟩ := Outcome.adapt_eq_ok succeeded
      have calls := Proceeds.call isCall found shallow prepared
      have isDone := bodyRun.perform_eq.trans ended
      cases begins
      -- A macro changes the scope itself, or through nodes in place, or not at all.
      have scoping := scoping_of_findMacro? standard lawful.defines found
      rcases scoping with binding | transparent | encloses
      · have bound := StandardMacro.binds_of_mem_binding rule binding interpreter.sources call scope
        refine (leaves_of_runScript bound isDone).mono fun name member => ?_
        rw [names_of_prepareCall prepared] at member
        exact ⟨node, _, _, rule, .refl, ⟨isCall, found⟩, binding, member⟩
      · have isTransparent := StandardMacro.isTransparent_of_mem_transparent rule transparent
        have stays := isTransparent interpreter.sources call scope
        have inside := body (calls.isLawful standard lawful) ⟨transparent, stays⟩ ended
        exact becomes_before calls ⟨rule, ⟨isCall, found⟩, transparent⟩ inside
      · exact (leaves_of_runScript (encloses interpreter.sources call scope) isDone) ▸ .refl _ _
  | finished =>
      cases succeeded
      exact begins.2 ▸ .refl _ _
  | iteration | insertion =>
      exact begins.2.elim
  | @step _ rule script _ start _ _ _ _ isStep ran _ rest =>
      have steps : interpreter.Proceeds ⟨.script rule script, start⟩ _ := .step isStep ran
      have stays := staysIn_of_step isStep begins.2 ran
      have left := rest (steps.isLawful standard lawful) ⟨begins.1, stays⟩ succeeded
      exact becomes_before steps begins.1 left
  | @pass _ rule nodes scope next start _ _ _ _ _ _ passRun _ pass rest =>
      obtain ⟨transparent, rfl, leaves⟩ := begins
      have goesOn : interpreter.Proceeds ⟨.script rule (.expand nodes scope next), start⟩ _ :=
        .afterPass passRun.perform_eq
      have passed := pass (Proceeds.pass.isLawful standard lawful) rfl rfl
      have stays (nodes : List Node) (left : Scope) : (next nodes left).StaysIn left := by
        rw [leaves]
        rfl
      have left := rest (goesOn.isLawful standard lawful) ⟨transparent, stays _ _⟩ succeeded
      exact (becomes_before .pass transparent passed).trans
        (becomes_before goesOn transparent left)

/-- The scope that the next moment in place begins in is the one of the moment before it, but for
the names that are bound on behalf of that one. -/
theorem ProceedsInPlace.becomes
    {scope : Scope}
    (proceedsInPlace : interpreter.ProceedsInPlace earlier later)
    (standard : interpreter.vocabulary = .standard)
    (lawful : earlier.IsLawful)
    (begins : earlier.task.BeginsIn scope) :
    ∃ inner,
      later.task.BeginsIn inner ∧ scope.Becomes (interpreter.BindsInPlace earlier) inner := by
  obtain ⟨inPlace, proceeds⟩ := proceedsInPlace
  cases proceeds with
  | visit charged =>
      exact ⟨scope, begins, .refl _ _⟩
  | @others node rest inner start _ _ _ _ charged first =>
      have visits : interpreter.Proceeds ⟨.forest (node :: rest) inner, start⟩ _ := .visit charged
      obtain ⟨_, visited⟩ := exists_expands (.node node inner) first 0
      have becomes := visited.becomes standard (visits.isLawful standard lawful) begins rfl
      exact ⟨_, rfl, becomes_before visits trivial becomes⟩
  | inside isTag prepared =>
      obtain ⟨rule, ⟨isCall, _⟩, _⟩ := inPlace
      rw [isTag] at isCall
      cases isCall
  | @call node inner _ rule call _ isCall found shallow prepared =>
      cases begins
      obtain ⟨rule', ⟨_, found'⟩, transparent⟩ := inPlace
      cases found.symm.trans found'
      have isTransparent := StandardMacro.isTransparent_of_mem_transparent rule transparent
      exact ⟨_, ⟨transparent, isTransparent interpreter.sources call _⟩, .refl _ _⟩
  | iteration | insertion | afterInsertion =>
      exact begins.2.elim
  | step isStep ran =>
      exact ⟨scope, ⟨begins.1, staysIn_of_step isStep begins.2 ran⟩, .refl _ _⟩
  | pass =>
      exact ⟨scope, begins.2.1, .refl _ _⟩
  | @afterPass rule nodes inner next start expanded left _ passed =>
      obtain ⟨transparent, rfl, leaves⟩ := begins
      obtain ⟨_, pass⟩ := exists_expands (.forest nodes inner) passed 0
      have becomes := pass.becomes standard (Proceeds.pass.isLawful standard lawful) rfl rfl
      refine ⟨left, ⟨transparent, ?_⟩, becomes_before .pass transparent becomes⟩
      rw [leaves]
      rfl

/-- The scope that a moment in place begins in is the one of the beginning, but for the names that
are bound in place. -/
theorem ReachesInPlace.becomes
    {scope : Scope}
    (reaches : interpreter.ReachesInPlace start later)
    (standard : interpreter.vocabulary = .standard)
    (lawful : start.IsLawful)
    (begins : start.task.BeginsIn scope) :
    ∃ inner,
      later.task.BeginsIn inner ∧ scope.Becomes (interpreter.BindsInPlace start) inner := by
  induction reaches with
  | refl =>
      exact ⟨scope, begins, .refl _ _⟩
  | tail before last inductionHypothesis =>
      obtain ⟨between, beginsBetween, becomes⟩ := inductionHypothesis
      have lawfulBetween := (ReachesInPlace.reaches before).isLawful standard lawful
      obtain ⟨inner, beginsInner, goesOn⟩ := last.becomes standard lawfulBetween beginsBetween
      exact ⟨inner, beginsInner,
        becomes.trans (goesOn.mono fun _ binds => binds.of_reachesInPlace before)⟩

/-- A node that has been paid for has a scope of its own inside if it had one before. -/
theorem Encloses.of_charge
    {node : Node}
    {progress paid : Progress}
    (encloses : interpreter.Encloses progress node)
    (charged : interpreter.charge progress = .ok () paid) :
    interpreter.Encloses paid node := by
  obtain ⟨_, rfl⟩ := charge_eq_ok charged
  exact fun rule calls => encloses rule ⟨calls.isCall, calls.found⟩

/-- A node with a scope of its own inside leaves the scope as it was. -/
theorem Encloses.eq
    {node : Node}
    {expanded : List Node}
    {scope left : Scope}
    {progress after : Progress}
    (encloses : interpreter.Encloses progress node)
    (ran : interpreter.expandNode node scope progress = .ok (expanded, left) after)
    (defines : progress.DefinesUserMacros) :
    left = scope := by
  obtain ⟨_, expands⟩ := exists_expands (.node node scope) ran 0
  generalize succeeded : EStateM.Result.ok (expanded, left) after = outcome at expands
  cases expands with
  | unfilled | unknown | refused | unprepared =>
      cases succeeded
  | tag =>
      obtain ⟨_, _, _, same⟩ := Outcome.adapt_eq_ok succeeded.symm
      cases same
      rfl
  | @called _ _ _ _ rule call _ _ _ isCall found shallow prepared body =>
      obtain ⟨_, _, ended, same⟩ := Outcome.adapt_eq_ok succeeded.symm
      cases same
      have leaves : rule.Encloses := by
        rcases encloses rule ⟨isCall, found⟩ with enclosing | defined
        · exact StandardMacro.encloses_of_mem_enclosing rule enclosing
        · obtain ⟨definition, rfl⟩ := defines node.name rule defined
          exact definition.encloses_toRule
      have isDone := body.perform_eq.trans ended
      have stays := leaves_of_runScript (leaves interpreter.sources call scope) isDone
      exact stays

/-- What has a scope of its own inside whatever is defined has one in every state. -/
theorem AlwaysEncloses.encloses
    {node : Node}
    (always : interpreter.AlwaysEncloses node)
    (progress : Progress) :
    interpreter.Encloses progress node := by
  rintro rule ⟨isCall, found⟩
  rw [findMacro?] at found
  split at found
  case h_1 rule' defined =>
    cases found
    exact .inr defined
  case h_2 =>
    rcases always with ⟨unmarked, isTag⟩ | rules
    · cases known : interpreter.vocabulary.tag? node.name <;>
        simp [isMacroCall, unmarked, known] at isCall isTag
    · exact .inl (rules rule found)

/-- Nodes with scopes of their own inside leave the scope as it was. -/
theorem eq_of_forall_alwaysEncloses
    {nodes expanded : List Node}
    {scope left : Scope}
    {progress after : Progress}
    (standard : interpreter.vocabulary = .standard)
    (always : ∀ node ∈ nodes, interpreter.AlwaysEncloses node)
    (defines : progress.DefinesUserMacros)
    (ran : interpreter.expandNodes nodes scope progress = .ok (expanded, left) after) :
    left = scope := by
  induction nodes generalizing scope progress expanded with
  | nil =>
      rw [expandNodes_nil] at ran
      cases ran
      rfl
  | cons node rest inductionHypothesis =>
      obtain ⟨firstAlways, othersAlways⟩ := List.forall_mem_cons.1 always
      obtain ⟨paid, first, between, others, charged, visited, ended, same⟩ :=
        expandNodes_cons_eq_ok ran
      cases same
      obtain ⟨_, rfl⟩ := charge_eq_ok charged
      obtain ⟨_, expands⟩ := exists_expands (.node node scope) visited 0
      have definesLater := expands.definesUserMacros standard 0 trivial defines
      have stays := inductionHypothesis othersAlways definesLater ended
      exact stays.trans ((firstAlways.encloses _).eq visited defines)

/--
With the vocabulary of the language, in every state in which documents have defined the macros that
are defined, a tag, a loop, a template and a macro of the document leave the scope as it was. Nodes
change a scope only by binding names of attributes of macro calls that bind names and that are
reached through transparent macros alone, and so it is at every moment that is reached like that,
whether the expansion succeeds or fails later. So later siblings are expanded in the scope that they
would be expanded in if the tags and loops before them were not there.
-/
theorem expandNodes_bindings
    (standard : interpreter.vocabulary = .standard)
    {progress : Progress}
    (defines : progress.DefinesUserMacros)
    (scope : Scope) :
    (∀ node expanded left after,
      interpreter.Encloses progress node →
        interpreter.expandNodes [node] scope progress = .ok (expanded, left) after →
          left = scope) ∧
    (∀ nodes expanded left after,
      interpreter.expandNodes nodes scope progress = .ok (expanded, left) after →
        left.enclosing = scope.enclosing ∧
          scope.Becomes (interpreter.BindsInPlace ⟨.forest nodes scope, progress⟩) left ∧
          ∀ name, ¬ interpreter.BindsInPlace ⟨.forest nodes scope, progress⟩ name →
            left.get? name = scope.get? name) ∧
    (∀ nodes moment,
      interpreter.ReachesInPlace ⟨.forest nodes scope, progress⟩ moment →
        ∃ inner, moment.task.BeginsIn inner ∧
          scope.Becomes (interpreter.BindsInPlace ⟨.forest nodes scope, progress⟩) inner) ∧
    ∀ earlier later,
      (∀ node ∈ earlier, interpreter.AlwaysEncloses node) →
        interpreter.expandNodes (earlier ++ later) scope progress =
          (do
            let first ← interpreter.expandNodes earlier scope
            let others ← interpreter.expandNodes later scope
            return (first.1 ++ others.1, others.2)) progress := by
  refine ⟨fun node expanded left after encloses ran => ?node,
    fun nodes expanded left after ran => ?nodes,
    fun nodes moment reaches => reaches.becomes standard ⟨⟨0, trivial⟩, defines⟩ rfl,
    fun earlier later always => ?siblings⟩
  case node =>
    obtain ⟨paid, first, between, others, charged, visited, ended, same⟩ :=
      expandNodes_cons_eq_ok ran
    have enclosesPaid := encloses.of_charge charged
    obtain ⟨_, rfl⟩ := charge_eq_ok charged
    rw [expandNodes_nil] at ended
    cases ended
    cases same
    exact enclosesPaid.eq visited defines
  case nodes =>
    obtain ⟨_, expands⟩ := exists_expands (.forest nodes scope) ran 0
    have becomes := expands.becomes standard ⟨⟨0, trivial⟩, defines⟩ rfl rfl
    exact ⟨becomes.enclosing_eq, becomes, fun name unbound => becomes.get?_eq unbound⟩
  case siblings =>
    rw [expandNodes_append, Expansion.bind_apply, Expansion.bind_apply]
    cases ran : interpreter.expandNodes earlier scope progress with
    | error problem after =>
        rfl
    | ok value after =>
        obtain ⟨expanded, left⟩ := value
        cases eq_of_forall_alwaysEncloses standard always defines ran
        rfl

/-- What is bound inside a group is not bound after it, and what is bound beside it is. -/
theorem expandNodes_bindings_group :
    let interpreter : Interpreter := { vocabulary := .standard }
    let group : Node :=
      { name := "group",
        children := [{ name := "assign", isMacro := true, attributes := [⟨"inside", "1"⟩] }] }
    let assign : Node := { name := "assign", isMacro := true, attributes := [⟨"beside", "2"⟩] }
    let progress := interpreter.beginning []
    (∃ expanded after,
      interpreter.expandNodes [group] .empty progress = .ok (expanded, .empty) after) ∧
    (∃ expanded left after,
      interpreter.expandNodes [group, assign] .empty progress = .ok (expanded, left) after ∧
        left.get? "inside" = none ∧ left.get? "beside" = some "2" ∧ left.enclosing = [] ∧
        Scope.empty.Becomes
          (interpreter.BindsInPlace ⟨.forest [group, assign] .empty, progress⟩) left) ∧
    interpreter.expandNodes ([group] ++ [assign]) .empty progress =
      (do
        let first ← interpreter.expandNodes [group] .empty
        let others ← interpreter.expandNodes [assign] .empty
        return (first.1 ++ others.1, others.2)) progress := by
  intro interpreter group assign progress
  have always : interpreter.AlwaysEncloses group := by
    refine .inl ⟨rfl, ?_⟩
    decide +kernel
  have bindings :=
    @expandNodes_bindings interpreter rfl progress
      (Progress.definesUserMacros_beginning interpreter []) .empty
  refine ⟨?group, ?both, bindings.2.2.2 [group] [assign] (by simpa using always)⟩
  case group =>
    have succeeds : ((interpreter.runExpansion [] [group]).result.toOption).isSome = true := by
      decide +kernel
    obtain ⟨⟨expanded, left⟩, isValue⟩ := Option.isSome_iff_exists.1 succeeds
    obtain ⟨after, ran⟩ := exists_expandNodes_of_runExpansion isValue
    cases bindings.1 group expanded left after (always.encloses progress) ran
    exact ⟨expanded, after, ran⟩
  case both =>
    have leaves :
        (interpreter.runExpansion [] [group, assign]).result.toOption.map Prod.snd =
          some ⟨[("beside", "2")], []⟩ := by
      decide +kernel
    obtain ⟨⟨expanded, left⟩, isValue, rfl⟩ := Option.map_eq_some_iff.1 leaves
    obtain ⟨after, ran⟩ := exists_expandNodes_of_runExpansion isValue
    have changes := bindings.2.1 [group, assign] expanded _ after ran
    exact ⟨expanded, _, after, ran, by decide, by decide, changes.1, changes.2.1⟩

end Interpreter

end WidgetMarkup
