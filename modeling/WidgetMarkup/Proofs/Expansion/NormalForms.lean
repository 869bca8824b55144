import WidgetMarkup.Proofs.Construction.Failures
import WidgetMarkup.Proofs.Expansion.Moments
import WidgetMarkup.Proofs.Vocabulary.UnmarkedScripts

namespace WidgetMarkup

open Markup
open Expansion (Event Task Outcome OnlyLogs)

/-!
# Normal forms of expansion

What an expansion gives holds no macro calls any more, so that building never meets one. Nodes in
which there is nothing to expand, to fill in or to add are given back as they are, and nothing else
happens but that they are paid for.
-/

namespace Expansion

/-- Whether a task can only give unmarked nodes: a script must be lawful and give none itself. -/
def Task.GivesUnmarked : Task → Prop
  | .forest _ _ | .node _ _ => True
  | .script _ steps => (∃ taken, steps.IsLawful taken) ∧ steps.GivesUnmarked

/-- Whether the nodes that come of a task are unmarked. -/
def Outcome.IsUnmarked : Outcome → Prop
  | .ok value _ => Node.AreUnmarked value.1
  | .error _ _ => True

/-- Nodes stay unmarked when unmarked nodes are put around or beside them. -/
theorem Outcome.IsUnmarked.adapt
    {outcome : Outcome}
    {give : List Node × Scope → List Node × Scope}
    {restore : Progress → Progress}
    (isUnmarked : outcome.IsUnmarked)
    (keeps : ∀ value, Node.AreUnmarked value.1 → Node.AreUnmarked (give value).1) :
    (outcome.adapt give restore).IsUnmarked := by
  cases outcome with
  | ok value after =>
      exact keeps value isUnmarked
  | error problem after =>
      trivial

end Expansion

namespace Interpreter

variable {interpreter : Interpreter}

/-- A step without any nodes leaves a script that gives unmarked nodes as before. -/
theorem givesUnmarked_of_step
    {script next : Script}
    {inner : Expansion Script}
    {progress between : Progress}
    (isStep : interpreter.step? script = some inner)
    (unmarked : script.GivesUnmarked)
    (ran : inner progress = .ok next between) :
    next.GivesUnmarked := by
  cases script <;> simp only [step?, Option.some.injEq, reduceCtorEq] at isStep <;> subst isStep
  case fail problem =>
    cases ran
  case interpolate | evaluate | invoke =>
    obtain ⟨answer, _, rfl⟩ := Expansion.map_eq_ok ran
    exact unmarked answer
  case define | addDefault | record =>
    cases ran
    exact unmarked

/-- Nodes become unmarked when they are expanded with the vocabulary of the language. -/
theorem Expands.isUnmarked
    {active : Nat}
    {task : Task}
    {progress : Progress}
    {events : List Event}
    {outcome : Outcome}
    (expands : interpreter.Expands active task progress events outcome)
    (standard : interpreter.vocabulary = .standard)
    (gives : task.GivesUnmarked)
    (defines : progress.DefinesUserMacros) :
    outcome.IsUnmarked := by
  induction expands with
  | nothing =>
      exact Node.areUnmarked_nil
  | unpaid | stopped | unfilled | unknown | refused | unprepared | unpaidIteration | failedStep
  | failedPass | unloaded | failedInsertion =>
      trivial
  | visited charged firstRun _ first others =>
      obtain ⟨_, rfl⟩ := charge_eq_ok charged
      have definesBetween := firstRun.definesUserMacros standard 0 trivial defines
      have firstUnmarked := first trivial defines
      exact (others trivial definesBetween).adapt fun _ => firstUnmarked.append
  | tag isTag prepared _ children =>
      have definesReady := (onlyLogs_prepareTag _ _).definesUserMacros prepared defines
      exact (children trivial definesReady).adapt fun _ unmarked =>
        Node.areUnmarked_singleton rfl unmarked
  | called isCall found shallow prepared _ body =>
      have definesReady := (onlyLogs_prepareCall _ _ _ _).definesUserMacros prepared defines
      have isStandard := isStandard_of_findMacro? standard defines found
      have bodyUnmarked := body
        ⟨⟨1, (isStandard _ _ _).isLawful⟩, (isStandard _ _ _).givesUnmarked⟩ definesReady
      exact bodyUnmarked.adapt fun _ unmarked => unmarked
  | finished =>
      exact gives.2
  | iteration charged _ rest =>
      obtain ⟨_, rfl⟩ := charge_eq_ok charged
      obtain ⟨⟨taken, lawful⟩, gives⟩ := gives
      exact rest ⟨⟨taken + 1, lawful⟩, gives⟩ defines
  | step isStep ran _ rest =>
      obtain ⟨⟨taken, lawful⟩, gives⟩ := gives
      obtain ⟨lawfulNext, definesNext⟩ := isLawful_of_step isStep lawful defines ran
      exact rest ⟨⟨taken, lawfulNext⟩, givesUnmarked_of_step isStep gives ran⟩ definesNext
  | pass passRun _ pass rest =>
      obtain ⟨⟨taken, _, lawful⟩, gives⟩ := gives
      have definesBetween := passRun.definesUserMacros standard 0 trivial defines
      exact rest ⟨⟨taken - 1, lawful _ _⟩, gives _ _ (pass trivial defines)⟩ definesBetween
  | insertion loaded passRun _ pass rest =>
      obtain ⟨⟨taken, _, lawful⟩, gives⟩ := gives
      obtain ⟨_, _, rfl⟩ := loadTemplate_eq_ok loaded
      have definesBetween := passRun.definesUserMacros standard 0 trivial defines
      exact rest ⟨⟨taken - 1, lawful _⟩, gives _ (pass trivial defines)⟩ definesBetween

/-- What an expansion gives holds no macro calls, with the vocabulary of the language. -/
theorem areUnmarked_of_expandNodes
    (standard : interpreter.vocabulary = .standard)
    {nodes expanded : List Node}
    {scope left : Scope}
    {progress after : Progress}
    (defines : progress.DefinesUserMacros)
    (ran : interpreter.expandNodes nodes scope progress = .ok (expanded, left) after) :
    Node.AreUnmarked expanded := by
  obtain ⟨events, expands⟩ := exists_expands (.forest nodes scope) ran progress.depth
  exact expands.isUnmarked standard trivial defines

/--
Whether an expansion finds nothing to do in a node: it is no macro call, no value in it has a brace,
its text is not blank unless there is none, and it has every attribute that a style would add.
-/
structure LeavesAlone (interpreter : Interpreter) (progress : Progress) (node : Node) : Prop where
  isTag :
    interpreter.isMacroCall progress node = false
  attributes :
    ∀ entry ∈ node.attributes, Text.openBrace ∉ entry.value.toList
  text :
    Text.openBrace ∉ node.text.toList
  hasText :
    node.text ≠ "" → node.hasText = true
  defaults :
    ∀ entry ∈ progress.styles.defaultsOf node.name,
      Attribute.isPresent entry.name node.attributes = true

/-- A value without any brace is what it says. -/
theorem interpolate_of_openBrace
    {raw : String}
    (plain : Text.openBrace ∉ raw.toList)
    (scope : Scope) :
    interpreter.interpolate scope raw = pure raw := by
  rw [interpolate, if_neg]
  simpa [Segment.isNeeded] using plain

/-- Attributes without any brace are what they say. -/
theorem interpolateAttributes_of_openBrace
    {attributes : List Attribute}
    (plain : ∀ entry ∈ attributes, Text.openBrace ∉ entry.value.toList)
    (scope : Scope) :
    interpreter.interpolateAttributes scope attributes = pure attributes := by
  induction attributes with
  | nil =>
      rfl
  | cons entry rest inductionHypothesis =>
      obtain ⟨entryPlain, restPlain⟩ := List.forall_mem_cons.1 plain
      rw [interpolateAttributes, interpolate_of_openBrace entryPlain,
        inductionHypothesis restPlain]
      rfl

/-- Attributes are complete if every default of the tag is among them. -/
theorem complete_of_isPresent
    {sheet : StyleSheet}
    {tag : String}
    {attributes : List Attribute}
    (present :
      ∀ entry ∈ sheet.defaultsOf tag, Attribute.isPresent entry.name attributes = true) :
    sheet.complete tag attributes = attributes := by
  unfold StyleSheet.complete
  generalize sheet.defaultsOf tag = defaults at present
  induction defaults with
  | nil =>
      rfl
  | cons entry rest inductionHypothesis =>
      obtain ⟨entryPresent, restPresent⟩ := List.forall_mem_cons.1 present
      rw [List.foldl_cons, if_pos entryPresent]
      exact inductionHypothesis restPresent

/-- A tag in which there is nothing to do is ready as it is. -/
theorem LeavesAlone.prepareTag_eq
    {progress : Progress}
    {node : Node}
    (alone : interpreter.LeavesAlone progress node)
    (scope : Scope)
    (path : TagPath) :
    interpreter.prepareTag node scope { progress with path } =
      .ok (node.attributes, node.text) { progress with path } := by
  rw [prepareTag, interpolateAttributes_of_openBrace alone.attributes, pure_bind,
    Expansion.get_bind_apply]
  simp only [complete_of_isPresent alone.defaults]
  split
  · rw [interpolate_of_openBrace alone.text]
    rfl
  · rename_i blank
    have text : node.text = "" := Classical.byContradiction fun other => blank (alone.hasText other)
    rw [text]
    rfl

/-- A tag in which there is nothing to do is given back as it is, if its children are. -/
theorem LeavesAlone.expandNode_eq
    {progress : Progress}
    {node : Node}
    (alone : interpreter.LeavesAlone progress node)
    (scope : Scope)
    (charged : Nat)
    (children :
      ∀ path,
        interpreter.expandNodes node.children scope.child { progress with path } =
          .ok (node.children, scope.child) { progress with charged, path }) :
    interpreter.expandNode node scope progress =
      .ok ([node], scope) { progress with charged } := by
  have unmarked := isMacro_of_isMacroCall alone.isTag
  rw [expandNode_of_tag alone.isTag, Expansion.within, Expansion.bind_apply, alone.prepareTag_eq]
  simp only [Expansion.bind_apply, children]
  cases node
  cases unmarked
  rfl

/-- Nodes in which there is nothing to do are given back and only paid for. -/
theorem expandNodes_of_leavesAlone :
    ∀ (nodes : List Node) (scope : Scope) (progress : Progress),
      (∀ node, Node.IsWithin nodes node → interpreter.LeavesAlone progress node) →
        progress.charged + Node.sizeAll nodes ≤ interpreter.settings.maxExpansions →
          interpreter.expandNodes nodes scope progress =
            .ok (nodes, scope) { progress with charged := progress.charged + Node.sizeAll nodes }
  | [], scope, progress, _, _ => by
      rw [expandNodes_nil]
      rfl
  | ⟨name, isMacro, attributes, children, text, position⟩ :: rest, scope, progress, alone,
    left => by
      simp only [Node.sizeAll, Node.size] at left ⊢
      have charged :
          interpreter.charge progress =
            .ok () { progress with charged := progress.charged + 1 } := by
        rw [charge, Expansion.charge_apply, if_neg (by omega)]
      have isAlone :
          interpreter.LeavesAlone { progress with charged := progress.charged + 1 }
            ⟨name, isMacro, attributes, children, text, position⟩ :=
        { alone _ (.root (List.mem_cons_self ..)) with }
      have inside (path : TagPath) :=
        expandNodes_of_leavesAlone children scope.child
          { progress with charged := progress.charged + 1, path }
          (fun node isWithin =>
            { alone node (.ofChildren isWithin (List.mem_cons_self ..)) with })
          (by simp only; omega)
      have first :=
        isAlone.expandNode_eq scope (progress.charged + 1 + Node.sizeAll children) inside
      have others :=
        expandNodes_of_leavesAlone rest scope
          { progress with charged := progress.charged + 1 + Node.sizeAll children }
          (fun node isWithin => { alone node (.mono isWithin fun _ => .tail _) with })
          (by simp only; omega)
      rw [expandNodes_cons, Expansion.bind_apply, charged]
      simp only [Expansion.bind_apply, first, others]
      simp only [Nat.add_assoc]
      rfl

/--
With the vocabulary of the language, expansion comes to a normal form: what it gives holds no macro
tag at any depth, so that building it never fails for a macro. And it is conservative: nodes with no
macro call, no brace in a value, no blank text and no tag that a style adds to are given back as
they are, within the limit, and the state is changed by nothing but what they cost.
-/
theorem expandNodes_isNormal
    (interpreter : Interpreter)
    (standard : interpreter.vocabulary = .standard) :
    (∀ nodes scope progress expanded left after,
      progress.DefinesUserMacros →
        interpreter.expandNodes nodes scope progress = .ok (expanded, left) after →
          (∀ node, Node.IsWithin expanded node → node.isMacro = false) ∧
            ∀ journal problem name,
              (interpreter.runConstruction journal expanded).result = .error problem →
                problem.problem ≠ .unknownMacro name) ∧
    ∀ nodes scope progress,
      (∀ node, Node.IsWithin nodes node → interpreter.LeavesAlone progress node) →
        progress.charged + Node.sizeAll nodes ≤ interpreter.settings.maxExpansions →
          interpreter.expandNodes nodes scope progress =
            .ok (nodes, scope)
              { progress with charged := progress.charged + Node.sizeAll nodes } := by
  constructor
  · intro nodes scope progress expanded left after defines ran
    have unmarked := areUnmarked_of_expandNodes standard defines ran
    refine ⟨unmarked, fun journal problem name failed => ?_⟩
    exact (isPlain_of_runConstruction standard failed).ne_unknownMacro unmarked name
  · exact expandNodes_of_leavesAlone

/-- A repetition becomes tags, and a group with backslashes inside another one stays as it is. -/
theorem expandNodes_isNormal_backslash :
    let interpreter : Interpreter := { vocabulary := .standard }
    let progress := interpreter.beginning []
    let loop : Node :=
      { name := "loop", isMacro := true, attributes := [⟨"times", "2"⟩],
        children := [{ name := "label" }] }
    let inner : Node :=
      { name := "group", attributes := [⟨"Title", "a\\b"⟩, ⟨"id", "c"⟩], text := "\\",
        position := ⟨2, 3⟩ }
    let outer : Node := { name := "group", children := [inner], position := ⟨1, 1⟩ }
    (∃ expanded left after,
      interpreter.expandNodes [loop] .empty progress = .ok (expanded, left) after ∧
        (∀ node, Node.IsWithin expanded node → node.isMacro = false) ∧
          ∀ journal problem name,
            (interpreter.runConstruction journal expanded).result = .error problem →
              problem.problem ≠ .unknownMacro name) ∧
    interpreter.expandNodes [outer] .empty progress =
      .ok ([outer], .empty) { progress with charged := 2 } := by
  intro interpreter progress loop inner outer
  have normal := expandNodes_isNormal interpreter rfl
  constructor
  · have succeeds : (interpreter.runExpansion [] [loop]).result.isOk = true := by
      decide +kernel
    unfold runExpansion expandDocument at succeeds
    rw [Expansion.bind_apply] at succeeds
    cases ran : interpreter.expandNodes [loop] .empty progress with
    | error problem after =>
        rw [ran] at succeeds
        cases succeeds
    | ok value after =>
        have defines := Progress.definesUserMacros_beginning interpreter []
        exact ⟨_, _, _, rfl, normal.1 [loop] .empty progress _ _ _ defines ran⟩
  · have isTag : interpreter.isMacroCall progress outer = false := by
      decide +kernel
    refine normal.2 [outer] .empty progress (fun node isWithin => ?_) (by decide)
    rcases isWithin.of_singleton with rfl | isInside
    · exact ⟨isTag, by decide, by decide, by decide, by decide⟩
    · rcases isInside.of_singleton with rfl | isInside
      · exact ⟨isTag, by decide, by decide, by decide, by decide⟩
      · exact absurd isInside Node.IsWithin.not_nil

end Interpreter

end WidgetMarkup
