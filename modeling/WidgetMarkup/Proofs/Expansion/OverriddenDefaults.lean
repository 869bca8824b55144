import WidgetMarkup.Proofs.Expansion.ResemblingScopes

namespace WidgetMarkup

open Markup
open Expansion (Moment OnlyLogs Outcome Task)

/-!
# Defaults that are overridden

A macro of a document binds its parameters to their defaults before it binds the attributes of its
call. Where the call supplies every parameter, no value of a default is seen any more. But defaults
are filled in all the same: their actions are run, and one that cannot be filled in fails the call.
-/

/-- What a name is bound to behind some bindings depends on the scope only if none of them is of
the name. -/
theorem Scope.get?_bindAll_congr
    {scope scope' : Scope}
    {name : String}
    (bindings : List (String × String))
    (same : name ∉ bindings.map Prod.fst → scope.get? name = scope'.get? name) :
    (scope.bindAll bindings).get? name = (scope'.bindAll bindings).get? name := by
  induction bindings generalizing scope scope' with
  | nil =>
      exact same List.not_mem_nil
  | cons binding rest inductionHypothesis =>
      refine @inductionHypothesis (scope.bind _ _) (scope'.bind _ _) fun notLater => ?_
      rw [get?_bind, get?_bind]
      split
      · rfl
      · rename_i other
        exact same (List.not_mem_cons_of_ne_of_not_mem other notLater)

/-- What has been bound before is not seen if all of it is bound again. -/
theorem Scope.Becomes.resembles_bindAll
    {scope inner : Scope}
    {bindings : List (String × String)}
    (becomes : scope.Becomes (· ∈ bindings.map Prod.fst) inner) :
    (scope.bindAll bindings).Resembles (inner.bindAll bindings) :=
  fun _ => get?_bindAll_congr bindings fun unbound => (becomes.get?_eq unbound).symm

/-- What attributes of a call bind. -/
def Markup.Attribute.bindings (attributes : List Attribute) : List (String × String) :=
  attributes.map fun entry => (entry.name, entry.value)

/-- Whether attributes supply every parameter of a macro, in the same spelling. -/
def UserMacro.IsSuppliedBy (definition : UserMacro) (attributes : List Attribute) : Prop :=
  ∀ name ∈ Attribute.names definition.parameters, name ∈ Attribute.names attributes

namespace Interpreter

variable {interpreter : Interpreter}

/-- Fills in the defaults of parameters, each of which may use those before it. -/
def fillDefaults (interpreter : Interpreter) : List Attribute → Scope → Expansion Scope
  | [], scope => return scope
  | parameter :: rest, scope => do
      let value ← interpreter.interpolate scope parameter.value
      interpreter.fillDefaults rest (scope.bind parameter.name value)

theorem onlyLogs_fillDefaults
    (parameters : List Attribute)
    (scope : Scope) :
    OnlyLogs (interpreter.fillDefaults parameters scope) := by
  induction parameters generalizing scope with
  | nil =>
      exact .pure scope
  | cons parameter rest inductionHypothesis =>
      exact (interpreter.onlyLogs_interpolate scope parameter.value).bind fun value =>
        inductionHypothesis _

/-- Filling in defaults binds the parameters. -/
theorem becomes_of_fillDefaults
    {parameters : List Attribute}
    {scope inner : Scope}
    {progress filled : Progress}
    (ran : interpreter.fillDefaults parameters scope progress = .ok inner filled) :
    scope.Becomes (· ∈ Attribute.names parameters) inner := by
  induction parameters generalizing scope progress with
  | nil =>
      cases ran
      exact .refl _ _
  | cons parameter rest inductionHypothesis =>
      rw [fillDefaults] at ran
      obtain ⟨value, between, _, ran⟩ := bind_eq_ok ran
      exact (Scope.Becomes.bind (List.mem_cons_self ..) scope value).trans
        ((inductionHypothesis ran).mono fun _ => List.mem_cons_of_mem _)

/-- A script that binds parameters fills in their defaults. -/
theorem runScript_bindDefaults
    (expand : Expander)
    (parameters : List Attribute)
    (scope : Scope)
    (next : Scope → Script) :
    interpreter.runScript expand (UserMacro.bindDefaults parameters scope next) =
      (do
        let inner ← interpreter.fillDefaults parameters scope
        interpreter.runScript expand (next inner)) := by
  induction parameters generalizing scope with
  | nil =>
      rw [UserMacro.bindDefaults, fillDefaults, pure_bind]
  | cons parameter rest inductionHypothesis =>
      simp only [UserMacro.bindDefaults, runScript, fillDefaults, bind_assoc, inductionHypothesis]

/-- A call of a macro of a document fills in the defaults and expands the body, in a scope that the
attributes of the call are bound in. -/
theorem runScript_toRule
    (expand : Expander)
    (definition : UserMacro)
    (call : MacroCall)
    (scope : Scope) :
    interpreter.runScript expand (definition.toRule.script interpreter.sources call scope) =
      (do
        let inner ← interpreter.fillDefaults definition.parameters scope.child
        interpreter.runScript expand
          (.expand (Node.replaceMarkers definition.marker call.children definition.body)
            (inner.bindAll (Attribute.bindings call.attributes))
            fun nodes _ => .finish nodes scope)) :=
  runScript_bindDefaults expand definition.parameters scope.child _

/-- A body is expanded to the same in scopes that resemble each other. -/
theorem runScript_body_congr
    (standard : interpreter.vocabulary = .standard)
    {progress : Progress}
    (defines : progress.DefinesUserMacros)
    {inner inner' : Scope}
    (resembles : inner.Resembles inner')
    (body : List Node)
    (scope : Scope) :
    interpreter.runScript interpreter.expandNodes
        (.expand body inner fun nodes _ => .finish nodes scope) progress =
      interpreter.runScript interpreter.expandNodes
        (.expand body inner' fun nodes _ => .finish nodes scope) progress := by
  have lawful : Moment.IsLawful ⟨.forest body inner, progress⟩ := ⟨⟨0, trivial⟩, defines⟩
  have bodies := resembles_perform standard lawful (.forest body resembles)
  simp only [perform] at bodies
  simp only [runScript, Expansion.bind_apply]
  cases ran : interpreter.expandNodes body inner progress with
  | ok value after =>
      rw [ran] at bodies
      obtain ⟨_, same, _⟩ := bodies.of_ok
      rw [same]
  | error problem after =>
      rw [ran] at bodies
      rw [bodies.of_error]

/-- A call that supplies every parameter comes to the same without any, once the defaults have been
filled in. -/
theorem runScript_toRule_eq_of_fillDefaults
    (standard : interpreter.vocabulary = .standard)
    {progress filled : Progress}
    (defines : progress.DefinesUserMacros)
    {definition : UserMacro}
    {call : MacroCall}
    (supplied : definition.IsSuppliedBy call.attributes)
    {scope inner : Scope}
    (ran : interpreter.fillDefaults definition.parameters scope.child progress = .ok inner filled) :
    interpreter.runScript interpreter.expandNodes
        (definition.toRule.script interpreter.sources call scope) progress =
      interpreter.runScript interpreter.expandNodes
        (({ definition with parameters := [] } : UserMacro).toRule.script interpreter.sources call
          scope) filled := by
  rw [runScript_toRule, Expansion.bind_apply, ran, runScript_toRule, fillDefaults, pure_bind]
  have rebound : scope.child.Becomes (· ∈ (Attribute.bindings call.attributes).map Prod.fst)
      inner := by
    refine (becomes_of_fillDefaults ran).mono fun name isParameter => ?_
    simpa [Attribute.bindings, Attribute.names] using supplied name isParameter
  have definesFilled := (onlyLogs_fillDefaults _ _).definesUserMacros ran defines
  exact (runScript_body_congr standard definesFilled rebound.resembles_bindAll _ scope).symm

/--
With the macros of the language, for every macro that a document may define and every call that
supplies all of its parameters, in every state: first the defaults are filled in, one after another.
If that fails, the call fails with the problem. If it does not, it has changed nothing but the
journal, and from there the call comes to what it comes to for the macro without any parameters: the
same nodes or the same problem, the same scope and the same state. So two macros that differ only in
their defaults come to the same wherever filling in these comes to the same.
-/
theorem runScript_toRule_of_isSuppliedBy
    (standard : interpreter.vocabulary = .standard)
    {progress : Progress}
    (defines : progress.DefinesUserMacros)
    {definition : UserMacro}
    {call : MacroCall}
    (supplied : definition.IsSuppliedBy call.attributes)
    (scope : Scope) :
    let run (definition : UserMacro) : Expansion (List Node × Scope) :=
      interpreter.runScript interpreter.expandNodes
        (definition.toRule.script interpreter.sources call scope)
    let fill (parameters : List Attribute) : Expansion Scope :=
      interpreter.fillDefaults parameters scope.child
    (∀ problem after,
      fill definition.parameters progress = .error problem after →
        run definition progress = .error problem after) ∧
    (∀ inner filled,
      fill definition.parameters progress = .ok inner filled →
        (∃ journal, filled = { progress with journal }) ∧
          run definition progress = run { definition with parameters := [] } filled) ∧
    ∀ parameters,
      Attribute.names parameters = Attribute.names definition.parameters →
        ∀ inner inner' filled,
          fill definition.parameters progress = .ok inner filled →
            fill parameters progress = .ok inner' filled →
              run definition progress = run { definition with parameters } progress := by
  intro run fill
  refine ⟨fun problem after failed => ?fails,
    fun inner filled ran => ⟨(onlyLogs_fillDefaults _ _).of_ok ran,
      runScript_toRule_eq_of_fillDefaults standard defines supplied ran⟩,
    fun parameters named inner inner' filled ran ran' => ?differs⟩
  case fails =>
    have stops :
        interpreter.fillDefaults definition.parameters scope.child progress =
          .error problem after := failed
    simp only [run, runScript_toRule, Expansion.bind_apply, stops]
  case differs =>
    have supplied' : ({ definition with parameters } : UserMacro).IsSuppliedBy call.attributes := by
      intro name isParameter
      exact supplied name (named ▸ isParameter)
    calc
      run definition progress
      _ = run { definition with parameters := [] } filled :=
        runScript_toRule_eq_of_fillDefaults standard defines supplied ran
      _ = run { definition with parameters } progress :=
        (runScript_toRule_eq_of_fillDefaults standard defines supplied' ran').symm

/-- A default that runs an action is overridden, after the action has been run. -/
theorem runScript_toRule_of_isSuppliedBy_action :
    let interpreter : Interpreter := { vocabulary := .standard, actions := ⟨[("ping", {})]⟩ }
    let definition : UserMacro :=
      { marker := "content", parameters := [⟨"a", "{$ping}"⟩],
        body := [{ name := "label", attributes := [⟨"text", "{a}"⟩] }] }
    let call : MacroCall :=
      { name := "m", attributes := [⟨"a", "1"⟩], children := [], text := "", path := .root }
    let run (definition : UserMacro) : Expansion (List Node × Scope) :=
      interpreter.runScript interpreter.expandNodes
        (definition.toRule.script interpreter.sources call .empty)
    definition.IsSuppliedBy call.attributes ∧
      ∃ journal,
        journal.calls.toList.map ActionCall.action = ["ping"] ∧
          run definition (interpreter.beginning []) =
            run { definition with parameters := [] } { interpreter.beginning [] with journal } := by
  intro interpreter definition call run
  have supplied : definition.IsSuppliedBy call.attributes := by
    simp [UserMacro.IsSuppliedBy, definition, call, Attribute.names]
  have shown :
      (match interpreter.fillDefaults definition.parameters Scope.empty.child
          (interpreter.beginning []) with
        | .ok _ filled => some (filled.journal.calls.toList.map ActionCall.action)
        | .error _ _ => none) =
        some ["ping"] := by
    decide +kernel
  cases ran : interpreter.fillDefaults definition.parameters Scope.empty.child
      (interpreter.beginning []) with
  | error problem after =>
      rw [ran] at shown
      cases shown
  | ok inner filled =>
      rw [ran] at shown
      obtain ⟨⟨journal, rfl⟩, same⟩ :=
        (@runScript_toRule_of_isSuppliedBy interpreter rfl _
          (Progress.definesUserMacros_beginning interpreter []) definition call supplied
          .empty).2.1 inner filled ran
      exact ⟨supplied, journal, Option.some.inj shown, same⟩

/-- Three defaults that are overridden: with one the call succeeds, with one it fails, and with one
it runs an action. -/
theorem overridden_defaults_differ :
    let interpreter : Interpreter := { vocabulary := .standard, actions := ⟨[("ping", {})]⟩ }
    let call : MacroCall :=
      { name := "m", attributes := [⟨"a", "1"⟩], children := [], text := "", path := .root }
    let run (default : String) : Outcome :=
      let definition : UserMacro :=
        { marker := "content", parameters := [⟨"a", default⟩],
          body := [{ name := "label", attributes := [⟨"text", "{a}"⟩] }] }
      interpreter.runScript interpreter.expandNodes
        (definition.toRule.script interpreter.sources call .empty) (interpreter.beginning [])
    let shows (value : List Node × Scope) (after : Progress) : List (Option String) × List String :=
      (value.1.map fun node => node.attribute? "text",
        after.journal.calls.toList.map ActionCall.action)
    Outcome.seen? shows (run "0") = some ([some "1"], []) ∧
      Outcome.seenProblem? (fun problem => problem.problem.kind) (run "{missing}") =
        some .interpolation ∧
      Outcome.seen? shows (run "{$ping}") = some ([some "1"], ["ping"]) := by
  decide +kernel

end Interpreter

end WidgetMarkup
