import WidgetMarkup.Proofs.Expansion.Moments
import WidgetMarkup.Proofs.Expansion.UniformFilling
import WidgetMarkup.Proofs.Vocabulary.PlainRules

namespace WidgetMarkup

open Markup
open Expansion (IsUniform Moment)

/-!
# Where an expansion fails

A path leads from the root of a document to where the expansion is, tag by tag and macro call by
macro call. It only gets longer on behalf of a moment, and what fails in its own right fails where
it is; so the path of a failure begins with that of every task that it is on behalf of.
-/

namespace TagPath

/-- The segment that a tag adds to the path around it. -/
def segment (name : String) : Option String → String
  | some id => name ++ "#" ++ id
  | none => name

@[simp] theorem segments_child
    (path : TagPath)
    (name : String)
    (id : Option String) :
    (path.child name id).segments = path.segments ++ [segment name id] := by
  cases id <;> rfl

end TagPath

/-- The segment of a tag: its name, with the value of its first id attribute if it has one. -/
def Markup.Node.segment (node : Node) : String :=
  TagPath.segment node.name (node.attribute? "id")

namespace Expansion

variable {α β : Type}

/-- Whether a part of an expansion leaves the path as it is, and fails nowhere but there. -/
def StaysInPlace (inner : Expansion α) : Prop :=
  ∀ path,
    EndsIn (fun problem => problem.path = path) (fun progress => progress.path = path) inner
      fun _ after => after.path = path

namespace StaysInPlace

theorem pure
    (value : α) :
    StaysInPlace (Pure.pure value) :=
  fun _ => .pure fun _ isHere => isHere

theorem bind
    {first : Expansion α}
    {next : α → Expansion β}
    (firstStays : StaysInPlace first)
    (nextStays : ∀ value, StaysInPlace (next value)) :
    StaysInPlace (first >>= next) :=
  fun path => (firstStays path).bind fun value => nextStays value path

theorem get :
    StaysInPlace (MonadState.get : Expansion Progress) :=
  fun _ _ isHere => isHere

theorem fail
    (problem : Problem) :
    StaysInPlace (Expansion.fail problem : Expansion α) :=
  fun _ _ isHere => isHere

/-- Changes that leave the path may be made. -/
theorem modifying
    {change : Progress → Progress}
    (keeps : ∀ progress, (change progress).path = progress.path) :
    StaysInPlace (modify change : Expansion Unit) :=
  fun _ progress isHere => (keeps progress).trans isHere

theorem record
    (level : LogLevel)
    (text : String) :
    StaysInPlace (Expansion.record level text) :=
  modifying fun _ => rfl

theorem charge
    (limit : Nat) :
    StaysInPlace (Expansion.charge limit) := by
  refine bind (modifying fun _ => rfl) fun _ => bind get fun progress => ?_
  split
  · exact fail _
  · exact pure ()

/-- What does the same in all states does it where it is. -/
theorem ofUniform
    {inner : Expansion α}
    (isUniform : inner.IsUniform) :
    StaysInPlace inner := by
  rintro _ progress rfl
  have sameCalls : progress.journal.SameCalls progress.journal := rfl
  have ends := isUniform.results False sameCalls False.elim
  generalize inner progress = result at ends
  cases ends with
  | ok _ between =>
      obtain ⟨_, rfl⟩ := between.changed
      rfl
  | error given _ =>
      exact given.firstPath

/-- What stays in place and succeeds leaves the path as it was. -/
theorem path_of_ok
    {inner : Expansion α}
    (stays : StaysInPlace inner)
    {progress after : Progress}
    {value : α}
    (ran : inner progress = .ok value after) :
    after.path = progress.path := by
  have ends := stays progress.path progress rfl
  rw [ran] at ends
  exact ends

/-- What stays in place and fails does so at the path where it began. -/
theorem path_of_error
    {inner : Expansion α}
    (stays : StaysInPlace inner)
    {progress after : Progress}
    {problem : LocatedProblem}
    (ran : inner progress = .error problem after) :
    problem.path = progress.path := by
  have ends := stays progress.path progress rfl
  rw [ran] at ends
  exact ends

end StaysInPlace

end Expansion

open Expansion (StaysInPlace)

namespace Interpreter

variable {interpreter : Interpreter}

section Filling

variable (scope : Scope)

theorem staysInPlace_prepareTag
    (node : Node) :
    StaysInPlace (interpreter.prepareTag node scope) := by
  refine (StaysInPlace.ofUniform (isUniform_interpolateAttributes scope _)).bind fun filled => ?_
  refine StaysInPlace.get.bind fun current => ?_
  split
  · exact (StaysInPlace.ofUniform (isUniform_interpolate scope _)).bind fun _ => .pure _
  · exact (StaysInPlace.pure _).bind fun _ => .pure _

theorem staysInPlace_prepareCall
    (rule : MacroRule)
    (node : Node)
    (path : TagPath) :
    StaysInPlace (interpreter.prepareCall rule node scope path) := by
  unfold prepareCall
  split
  · exact (StaysInPlace.ofUniform (isUniform_interpolateAttributes scope _)).bind fun _ =>
      (StaysInPlace.record _ _).bind fun _ => .pure _
  · exact (StaysInPlace.pure _).bind fun _ => (StaysInPlace.record _ _).bind fun _ => .pure _

end Filling

theorem staysInPlace_loadTemplate
    (template : String) :
    StaysInPlace (interpreter.loadTemplate template) := by
  refine StaysInPlace.get.bind fun progress => ?_
  split
  · exact .fail _
  · split
    · exact .fail _
    · split
      · exact .fail _
      · exact (StaysInPlace.record _ _).bind fun _ => .pure _

/-- A step of a script without any nodes fails where the script is carried out. -/
theorem staysInPlace_step
    {script : Script}
    {inner : Expansion Script}
    (isStep : interpreter.step? script = some inner) :
    StaysInPlace inner := by
  cases script <;> simp only [step?, Option.some.injEq, reduceCtorEq] at isStep <;> subst isStep
  case fail problem =>
    exact .fail problem
  case interpolate raw scope next =>
    exact .ofUniform ((isUniform_interpolate scope raw).map next)
  case evaluate source scope next =>
    exact .ofUniform ((isUniform_evaluate scope source).map next)
  case invoke reference next =>
    exact .ofUniform ((IsUniform.logged (interpreter.actions.isBlind_invoke reference) id).map next)
  case define name interpolates body next =>
    exact (StaysInPlace.record _ _).bind fun _ =>
      StaysInPlace.bind (.modifying fun _ => rfl) fun _ => .pure _
  case addDefault tag entry next =>
    exact StaysInPlace.bind (.modifying fun _ => rfl) fun _ => .pure _
  case record level text next =>
    exact (StaysInPlace.record level text).bind fun _ => .pure _

/-- The segment that a node adds to the path around it when it is visited: that of its macro call,
or that of the tag. -/
def visitSegment (interpreter : Interpreter) (progress : Progress) (node : Node) : String :=
  if interpreter.isMacroCall progress node then
    TagPath.segment (String.singleton interpreter.settings.marker ++ node.name) none
  else
    node.segment

/-- The segments of the path at a moment; one of a node is at that node already. -/
def place (interpreter : Interpreter) (moment : Moment) : List String :=
  match moment.task with
  | .forest _ _ | .script _ _ => moment.progress.path.segments
  | .node node _ =>
      moment.progress.path.segments ++ [interpreter.visitSegment moment.progress node]

variable {earlier later : Moment}

/-- A tag that is visited is expanded at its own path. -/
theorem place_of_tag
    {progress : Progress}
    {node : Node}
    {scope : Scope}
    (isTag : interpreter.isMacroCall progress node = false) :
    (progress.path.child node.name (node.attribute? "id")).segments =
      interpreter.place ⟨.node node scope, progress⟩ := by
  simp only [place, visitSegment, isTag, Bool.false_eq_true, ↓reduceIte,
    TagPath.segments_child, Node.segment]

/-- A macro call that is visited is carried out at its own path. -/
theorem place_of_call
    {progress : Progress}
    {node : Node}
    {scope : Scope}
    (isCall : interpreter.isMacroCall progress node = true) :
    (interpreter.macroPath progress.path node.name).segments =
      interpreter.place ⟨.node node scope, progress⟩ := by
  simp only [place, visitSegment, isCall, ↓reduceIte, macroPath, TagPath.segments_child]

/-- From one moment to the next, the path never gets shorter. -/
theorem Proceeds.place_prefix
    (proceeds : interpreter.Proceeds earlier later) :
    interpreter.place earlier <+: interpreter.place later := by
  have atSamePath {path path' : TagPath} (same : path' = path) : path.segments <+: path'.segments :=
    same ▸ List.prefix_rfl
  cases proceeds with
  | visit charged =>
      exact (atSamePath ((StaysInPlace.charge _).path_of_ok charged)).trans
        (List.prefix_append _ _)
  | others charged first =>
      have samePath := (StaysInPlace.charge _).path_of_ok charged
      obtain ⟨_, visited⟩ := exists_expands (.node _ _) first 0
      exact atSamePath (visited.restored.path.trans samePath)
  | inside isTag prepared =>
      rw [← place_of_tag isTag]
      exact atSamePath ((staysInPlace_prepareTag _ _).path_of_ok prepared)
  | call isCall found shallow prepared =>
      rw [← place_of_call isCall]
      exact atSamePath ((staysInPlace_prepareCall _ _ _ _).path_of_ok prepared)
  | iteration charged =>
      exact atSamePath ((StaysInPlace.charge _).path_of_ok charged)
  | step isStep ran =>
      exact atSamePath ((staysInPlace_step isStep).path_of_ok ran)
  | pass =>
      exact List.prefix_rfl
  | afterPass passed =>
      obtain ⟨_, pass⟩ := exists_expands (.forest _ _) passed 0
      exact atSamePath pass.restored.path
  | insertion loaded =>
      exact atSamePath ((restores_loadTemplate _).of_ok loaded).path
  | afterInsertion loaded passed =>
      obtain ⟨_, pass⟩ := exists_expands (.forest _ _) passed 0
      exact atSamePath (pass.restored.path.trans ((restores_loadTemplate _).of_ok loaded).path)

/-- On behalf of a moment, the path never gets shorter. -/
theorem Reaches.place_prefix
    (reaches : interpreter.Reaches earlier later) :
    interpreter.place earlier <+: interpreter.place later := by
  induction reaches with
  | refl =>
      exact List.prefix_rfl
  | tail _ last inductionHypothesis =>
      exact inductionHypothesis.trans last.place_prefix

/-- A moment that meets a problem in its own right meets it where it is. -/
theorem Fails.path_eq
    {moment : Moment}
    {problem : LocatedProblem}
    (fails : interpreter.Fails moment problem) :
    problem.path.segments = interpreter.place moment := by
  cases fails with
  | unpaid charged | unpaidIteration charged =>
      exact congrArg TagPath.segments ((StaysInPlace.charge _).path_of_error charged)
  | unfilled isTag prepared =>
      rw [(staysInPlace_prepareTag _ _).path_of_error prepared]
      exact place_of_tag isTag
  | unknown isCall | refused isCall =>
      exact place_of_call isCall
  | unprepared isCall found shallow prepared =>
      rw [(staysInPlace_prepareCall _ _ _ _).path_of_error prepared]
      exact place_of_call isCall
  | step isStep ran =>
      exact congrArg TagPath.segments ((staysInPlace_step isStep).path_of_error ran)
  | unloaded loaded =>
      exact congrArg TagPath.segments ((staysInPlace_loadTemplate _).path_of_error loaded)

/-- What a moment leads to fails at or below the moment's place. -/
theorem Meets.place_prefix
    {start : Moment}
    {problem : LocatedProblem}
    (meets : interpreter.Meets start problem) :
    interpreter.place start <+: problem.path.segments := by
  obtain ⟨moment, reaches, fails⟩ := meets
  exact fails.path_eq ▸ reaches.place_prefix

/--
A forest that leads to a problem does so at its own path, where what may be expanded is used up, or
at or below one of its nodes that is visited there.
-/
theorem Meets.of_forest
    {nodes : List Node}
    {scope : Scope}
    {progress : Progress}
    {problem : LocatedProblem}
    (meets : interpreter.Meets ⟨.forest nodes scope, progress⟩ problem) :
    problem = (Problem.tooLarge interpreter.settings.maxExpansions).located progress.path ∨
      ∃ node ∈ nodes, ∃ inner visited deeper,
        interpreter.Reaches ⟨.forest nodes scope, progress⟩ ⟨.node node inner, visited⟩ ∧
          problem.path.segments =
            progress.path.segments ++ interpreter.visitSegment visited node :: deeper := by
  obtain ⟨moment, reaches, fails⟩ := meets
  induction nodes generalizing scope progress with
  | nil =>
      rcases reaches.cases_head with rfl | ⟨_, first, _⟩
      · cases fails
      · cases first
  | cons node rest inductionHypothesis =>
      rcases reaches.cases_head with rfl | ⟨_, first, later⟩
      · cases fails with
        | unpaid charged =>
            rw [charge, Expansion.charge_apply] at charged
            split at charged <;> cases charged
            exact .inl rfl
      · cases first with
        | visit charged =>
            have samePath := (StaysInPlace.charge _).path_of_ok charged
            obtain ⟨deeper, below⟩ := Reaches.place_prefix later
            rw [← fails.path_eq] at below
            refine .inr ⟨node, List.mem_cons_self .., scope, _, deeper,
              .single (.visit charged), ?_⟩
            rw [← below, ← samePath, place, List.append_assoc, List.singleton_append]
        | others charged visited =>
            have toRest : interpreter.Proceeds ⟨.forest (node :: rest) scope, progress⟩ _ :=
              .others charged visited
            obtain ⟨_, first⟩ := exists_expands (.node _ _) visited 0
            have samePath :=
              first.restored.path.trans ((StaysInPlace.charge _).path_of_ok charged)
            rw [← samePath]
            refine (inductionHypothesis later).imp_right ?_
            rintro ⟨other, listed, inner, state, deeper, visits, below⟩
            exact ⟨other, .tail _ listed, inner, state, deeper, .head toRest visits, below⟩

end Interpreter

end WidgetMarkup
