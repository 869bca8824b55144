import WidgetMarkup.Proofs.Expansion.Order
import WidgetMarkup.Proofs.Vocabulary.FundedScripts
import WidgetMarkup.Run

namespace WidgetMarkup

open Markup
open Expansion (Event Task Outcome OnlyLogs)

/-!
# The size of what is expanded

Each node that an expansion gives was visited when it was made, and each visit is charged. So with
the macros of the language an expansion gives no more nodes than it has charged, and a document is
built from no more nodes than may be charged.
-/

namespace Expansion

/--
Whether a task can only give nodes that are paid for, a number of them being paid for already: a
node that is visited must be, and a script must be funded.
-/
def Task.IsFunded (paid : Nat) : Task → Prop
  | .forest _ _ => True
  | .node _ _ => 0 < paid
  | .script _ steps => (∃ taken, steps.IsLawful taken) ∧ steps.IsFunded paid

/-- Whether the nodes that come of a task were charged during it or paid for before. -/
def Outcome.IsPaidFor (before paid : Nat) : Outcome → Prop
  | .ok value after => before + Node.sizeAll value.1 ≤ after.charged + paid
  | .error _ _ => True

/-- Whether a task that succeeds has charged within a limit, unless more was charged before. -/
def Outcome.ChargesWithin (limit before : Nat) : Outcome → Prop
  | .ok _ after => after.charged ≤ max before limit
  | .error _ _ => True

/-- It does not matter whether nodes are paid for before or charged during a task. -/
theorem Outcome.IsPaidFor.weaken
    {before between paid paid' : Nat}
    {outcome : Outcome}
    (paidFor : outcome.IsPaidFor between paid')
    (enough : before + paid' ≤ between + paid) :
    outcome.IsPaidFor before paid := by
  cases outcome with
  | ok value after =>
      simp only [Outcome.IsPaidFor] at *
      omega
  | error problem after =>
      trivial

/-- Nodes that are put around or beside what a task gives have to be paid for too. -/
theorem Outcome.IsPaidFor.adapt
    {before paid added : Nat}
    {outcome : Outcome}
    {give : List Node × Scope → List Node × Scope}
    {restore : Progress → Progress}
    (paidFor : outcome.IsPaidFor before paid)
    (adds : ∀ value, Node.sizeAll (give value).1 = added + Node.sizeAll value.1)
    (keeps : ∀ after, (restore after).charged = after.charged) :
    (outcome.adapt give restore).IsPaidFor before (added + paid) := by
  cases outcome with
  | ok value after =>
      simp only [Outcome.IsPaidFor, Outcome.adapt, adds, keeps] at *
      omega
  | error problem after =>
      trivial

/-- What is charged within a limit before a task may as well be charged during it. -/
theorem Outcome.ChargesWithin.mono
    {limit before between : Nat}
    {outcome : Outcome}
    (within : outcome.ChargesWithin limit between)
    (grown : between ≤ max before limit) :
    outcome.ChargesWithin limit before := by
  cases outcome with
  | ok value after =>
      exact Nat.le_trans within (Nat.max_le.2 ⟨grown, Nat.le_max_right _ _⟩)
  | error problem after =>
      trivial

/-- It does not matter for what is charged how an outcome is changed otherwise. -/
theorem Outcome.ChargesWithin.adapt
    {limit before : Nat}
    {outcome : Outcome}
    {give : List Node × Scope → List Node × Scope}
    {restore : Progress → Progress}
    (within : outcome.ChargesWithin limit before)
    (keeps : ∀ after, (restore after).charged = after.charged) :
    (outcome.adapt give restore).ChargesWithin limit before := by
  cases outcome with
  | ok value after =>
      exact Nat.le_trans (Nat.le_of_eq (keeps after)) within
  | error problem after =>
      trivial

/-- Where there is only logging, nothing is charged. -/
theorem OnlyLogs.charged_eq
    {α : Type}
    {inner : Expansion α}
    {progress after : Progress}
    {value : α}
    (onlyLogs : OnlyLogs inner)
    (ran : inner progress = .ok value after) :
    after.charged = progress.charged := by
  obtain ⟨journal, rfl⟩ := onlyLogs.of_ok ran
  rfl

end Expansion

namespace Interpreter

variable {interpreter : Interpreter}

/-- A step without any nodes leaves a script that is funded as before. -/
theorem isFunded_of_step
    {script next : Script}
    {inner : Expansion Script}
    {paid : Nat}
    {progress between : Progress}
    (isStep : interpreter.step? script = some inner)
    (funded : script.IsFunded paid)
    (ran : inner progress = .ok next between) :
    next.IsFunded paid := by
  cases script <;> simp only [step?, Option.some.injEq, reduceCtorEq] at isStep <;> subst isStep
  case fail problem =>
    cases ran
  case interpolate | evaluate | invoke =>
    obtain ⟨answer, _, rfl⟩ := Expansion.map_eq_ok ran
    exact funded answer
  case define | addDefault | record =>
    cases ran
    exact funded

/-- A step without any nodes charges nothing. -/
theorem charged_of_step
    {script next : Script}
    {inner : Expansion Script}
    {progress between : Progress}
    (isStep : interpreter.step? script = some inner)
    (ran : inner progress = .ok next between) :
    between.charged = progress.charged := by
  cases script <;> simp only [step?, Option.some.injEq, reduceCtorEq] at isStep <;> subst isStep
  case interpolate raw scope next =>
    exact ((interpreter.onlyLogs_interpolate scope raw).map next).charged_eq ran
  case evaluate source scope next =>
    exact ((interpreter.onlyLogs_evaluate scope source).map next).charged_eq ran
  case invoke reference next =>
    exact ((interpreter.onlyLogs_invoke reference).map next).charged_eq ran
  case fail | define | addDefault | record =>
    cases ran
    try rfl

/-- What comes of a funded task is paid for, with the vocabulary of the language. -/
theorem Expands.isPaidFor
    {active paid : Nat}
    {task : Task}
    {progress : Progress}
    {events : List Event}
    {outcome : Outcome}
    (expands : interpreter.Expands active task progress events outcome)
    (standard : interpreter.vocabulary = .standard)
    (funded : task.IsFunded paid)
    (defines : progress.DefinesUserMacros) :
    outcome.IsPaidFor progress.charged paid := by
  induction expands generalizing paid with
  | nothing =>
      exact Nat.le_add_right _ _
  | unpaid | stopped | unfilled | unknown | refused | unprepared | unpaidIteration | failedStep
  | failedPass | unloaded | failedInsertion =>
      trivial
  | @visited _ _ _ _ _ _ _ expanded _ _ _ _ charged firstRun _ first others =>
      obtain ⟨_, rfl⟩ := charge_eq_ok charged
      have definesBetween := firstRun.definesUserMacros standard 0 trivial defines
      have firstPaid := first Nat.one_pos defines
      have othersPaid := @others paid trivial definesBetween
      refine .weaken (.adapt othersPaid (fun others => Node.sizeAll_append expanded others.1)
        fun _ => rfl) ?_
      simp only [Outcome.IsPaidFor] at firstPaid
      omega
  | tag isTag prepared _ children =>
      have definesReady := (onlyLogs_prepareTag _ _).definesUserMacros prepared defines
      have readied := (onlyLogs_prepareTag _ _).charged_eq prepared
      have childrenPaid := @children 0 trivial definesReady
      refine .weaken (.adapt childrenPaid (fun _ => rfl) fun _ => rfl) ?_
      rw [readied]
      exact Nat.add_le_add_left funded _
  | called isCall found shallow prepared _ body =>
      have definesReady := (onlyLogs_prepareCall _ _ _ _).definesUserMacros prepared defines
      have readied := (onlyLogs_prepareCall _ _ _ _).charged_eq prepared
      have isStandard := isStandard_of_findMacro? standard defines found
      have bodyPaid := body ⟨⟨1, (isStandard _ _ _).isLawful⟩, (isStandard _ _ _).isFunded⟩
        definesReady
      refine .weaken (.adapt bodyPaid (fun _ => (Nat.zero_add _).symm) fun _ => rfl) ?_
      rw [readied]
      exact Nat.add_le_add_left (Nat.zero_le paid) _
  | finished =>
      exact Nat.add_le_add_left funded.2 _
  | iteration charged _ rest =>
      obtain ⟨_, rfl⟩ := charge_eq_ok charged
      obtain ⟨⟨taken, lawful⟩, funded⟩ := funded
      refine (rest ⟨⟨taken + 1, lawful⟩, funded⟩ defines).weaken ?_
      exact Nat.le_of_eq (Nat.add_right_comm _ paid 1)
  | step isStep ran _ rest =>
      obtain ⟨⟨taken, lawful⟩, funded⟩ := funded
      obtain ⟨lawfulNext, definesNext⟩ := isLawful_of_step isStep lawful defines ran
      have fundedNext := isFunded_of_step isStep funded ran
      rw [← charged_of_step isStep ran]
      exact rest ⟨⟨taken, lawfulNext⟩, fundedNext⟩ definesNext
  | pass passRun _ pass rest =>
      obtain ⟨⟨taken, isTaken, lawful⟩, funded⟩ := funded
      have definesBetween := passRun.definesUserMacros standard 0 trivial defines
      have passPaid := @pass 0 trivial defines
      refine (rest ⟨⟨taken - 1, lawful _ _⟩, funded _ _⟩ definesBetween).weaken ?_
      simp only [Outcome.IsPaidFor] at passPaid
      omega
  | insertion loaded passRun _ pass rest =>
      obtain ⟨⟨taken, isTaken, lawful⟩, funded⟩ := funded
      obtain ⟨_, _, rfl⟩ := loadTemplate_eq_ok loaded
      have definesBetween := passRun.definesUserMacros standard 0 trivial defines
      have passPaid := @pass 0 trivial defines
      refine (rest ⟨⟨taken - 1, lawful _⟩, funded _⟩ definesBetween).weaken ?_
      simp only [Outcome.IsPaidFor] at passPaid ⊢
      omega

/-- A task that succeeds has charged no more than may be charged. -/
theorem Expands.chargesWithin
    {active : Nat}
    {task : Task}
    {progress : Progress}
    {events : List Event}
    {outcome : Outcome}
    (expands : interpreter.Expands active task progress events outcome) :
    outcome.ChargesWithin interpreter.settings.maxExpansions progress.charged := by
  induction expands with
  | nothing | finished =>
      exact Nat.le_max_left _ _
  | unpaid | stopped | unfilled | unknown | refused | unprepared | unpaidIteration | failedStep
  | failedPass | unloaded | failedInsertion =>
      trivial
  | visited charged _ _ first others =>
      obtain ⟨left, rfl⟩ := charge_eq_ok charged
      refine (others.mono ?_).adapt fun _ => rfl
      exact Nat.le_trans first
        (Nat.max_le.2 ⟨Nat.le_trans left (Nat.le_max_right _ _), Nat.le_max_right _ _⟩)
  | tag isTag prepared _ children =>
      rw [← (onlyLogs_prepareTag _ _).charged_eq prepared]
      exact children.adapt fun _ => rfl
  | called isCall found shallow prepared _ body =>
      rw [← (onlyLogs_prepareCall _ _ _ _).charged_eq prepared]
      exact body.adapt fun _ => rfl
  | iteration charged _ rest =>
      obtain ⟨left, rfl⟩ := charge_eq_ok charged
      exact rest.mono (Nat.le_trans left (Nat.le_max_right _ _))
  | step isStep ran _ rest =>
      rw [← charged_of_step isStep ran]
      exact rest
  | pass _ _ pass rest =>
      exact rest.mono pass
  | insertion loaded _ _ pass rest =>
      obtain ⟨_, _, rfl⟩ := loadTemplate_eq_ok loaded
      exact rest.mono pass

/-- What is charged is within the limit afterwards, unless it was not and no node is visited. -/
theorem charged_le_of_expandNodes
    {nodes : List Node}
    {scope : Scope}
    {progress after : Progress}
    {value : List Node × Scope}
    (ran : interpreter.expandNodes nodes scope progress = .ok value after)
    (started : nodes ≠ [] ∨ progress.charged ≤ interpreter.settings.maxExpansions) :
    after.charged ≤ interpreter.settings.maxExpansions := by
  have left : progress.charged ≤ interpreter.settings.maxExpansions := by
    rcases started with someNodes | left
    · obtain ⟨first, rest, rfl⟩ := List.exists_cons_of_ne_nil someNodes
      rw [expandNodes_cons, Expansion.bind_apply] at ran
      cases charged : interpreter.charge progress with
      | error problem paid =>
          rw [charged] at ran
          cases ran
      | ok _ paid =>
          exact Nat.le_of_lt (charge_eq_ok charged).1
    · exact left
  obtain ⟨events, expands⟩ :=
    interpreter.exists_expands_perform progress.depth (.forest nodes scope) progress
  rw [perform, ran] at expands
  exact Nat.max_eq_right left ▸ expands.chargesWithin

/-- The nodes that an expansion gives were charged during it. -/
theorem sizeAll_le_of_expandNodes
    (standard : interpreter.vocabulary = .standard)
    {nodes : List Node}
    {scope : Scope}
    {progress after : Progress}
    {value : List Node × Scope}
    (defines : progress.DefinesUserMacros)
    (ran : interpreter.expandNodes nodes scope progress = .ok value after) :
    progress.charged + Node.sizeAll value.1 ≤ after.charged := by
  obtain ⟨events, expands⟩ :=
    interpreter.exists_expands_perform progress.depth (.forest nodes scope) progress
  rw [perform, ran] at expands
  exact @Expands.isPaidFor _ _ 0 _ _ _ _ expands standard trivial defines

/-- A document's nodes are expanded to no more than may be charged. -/
theorem sizeAll_le_of_runExpansion
    (standard : interpreter.vocabulary = .standard)
    {imports : List String}
    {nodes expanded : List Node}
    {scope : Scope}
    {journal : Journal}
    (ran : interpreter.runExpansion imports nodes = ⟨.ok (expanded, scope), journal⟩) :
    Node.sizeAll expanded ≤ interpreter.settings.maxExpansions := by
  unfold runExpansion expandDocument at ran
  rw [Expansion.bind_apply] at ran
  cases inner : interpreter.expandNodes nodes .empty (interpreter.beginning imports) with
  | error problem after =>
      rw [inner] at ran
      cases ran
  | ok value after =>
      rw [inner] at ran
      cases ran
      have size := sizeAll_le_of_expandNodes standard
        (Progress.definesUserMacros_beginning interpreter imports) inner
      have charged := charged_le_of_expandNodes inner (.inr (Nat.zero_le _))
      exact Nat.le_trans (Nat.le_trans (Nat.le_add_left _ _) size) charged

/-- A run that gives a document has expanded its nodes and built the document from them. -/
theorem exists_construction_of_runWithin
    {imports : List String}
    {source : String}
    {document : Document}
    (ran : (interpreter.runWithin imports source).result = .ok document) :
    ∃ nodes expanded scope journal,
      forestOfSource interpreter.settings.marker source = .ok nodes ∧
        interpreter.runExpansion imports nodes = ⟨.ok (expanded, scope), journal⟩ ∧
        interpreter.runWithin imports source = interpreter.runConstruction journal expanded := by
  unfold runWithin at ran ⊢
  split at ran
  · cases ran
  · rename_i nodes read
    split at ran
    · cases ran
    · rename_i expanded scope journal expansion
      exact ⟨nodes, expanded, scope, journal, read, expansion, rfl⟩

/--
With the vocabulary of the language, the nodes that an expansion gives are no more than it has
charged, and what is charged afterwards is within the limit; only a state that has gone beyond the
limit before stays so, when no node is expanded in it. So a document is built from no more nodes
than may be charged.
-/
theorem expandNodes_size_le_charged
    (interpreter : Interpreter)
    (standard : interpreter.vocabulary = .standard) :
    (∀ nodes scope progress expanded left after,
      progress.DefinesUserMacros →
        interpreter.expandNodes nodes scope progress = .ok (expanded, left) after →
          progress.charged + Node.sizeAll expanded ≤ after.charged ∧
            (nodes ≠ [] ∨ progress.charged ≤ interpreter.settings.maxExpansions →
              after.charged ≤ interpreter.settings.maxExpansions)) ∧
    ∀ imports source document,
      (interpreter.runWithin imports source).result = .ok document →
        ∃ nodes expanded scope journal,
          forestOfSource interpreter.settings.marker source = .ok nodes ∧
            interpreter.runExpansion imports nodes = ⟨.ok (expanded, scope), journal⟩ ∧
            interpreter.runWithin imports source =
              interpreter.runConstruction journal expanded ∧
            Node.sizeAll expanded ≤ interpreter.settings.maxExpansions := by
  constructor
  · intro nodes scope progress expanded left after defines ran
    exact ⟨sizeAll_le_of_expandNodes standard defines ran, charged_le_of_expandNodes ran⟩
  · intro imports source document ran
    obtain ⟨nodes, expanded, scope, journal, read, expansion, construction⟩ :=
      exists_construction_of_runWithin ran
    exact ⟨nodes, expanded, scope, journal, read, expansion, construction,
      sizeAll_le_of_runExpansion standard expansion⟩

/-- What two repetitions give is paid for within a limit of five, and a document is built of it. -/
theorem expandNodes_size_le_charged_twice :
    let interpreter : Interpreter := { vocabulary := .standard, settings := { maxExpansions := 5 } }
    let source := "<:loop times=\"2\"><label/></:loop>"
    let nodes : List Node :=
      [{ name := "loop", isMacro := true, attributes := [⟨"times", "2"⟩],
         children := [{ name := "label" }] }]
    let progress := interpreter.beginning []
    (∃ expanded left after,
      interpreter.expandNodes nodes .empty progress = .ok (expanded, left) after ∧
        progress.charged + Node.sizeAll expanded ≤ after.charged ∧ after.charged ≤ 5) ∧
    ∃ document nodes expanded scope journal,
      (interpreter.runWithin [] source).result = .ok document ∧
        interpreter.runExpansion [] nodes = ⟨.ok (expanded, scope), journal⟩ ∧
        interpreter.runWithin [] source = interpreter.runConstruction journal expanded ∧
        Node.sizeAll expanded ≤ 5 := by
  intro interpreter source nodes progress
  have size := expandNodes_size_le_charged interpreter rfl
  constructor
  · have succeeds : (interpreter.runExpansion [] nodes).result.isOk = true := by
      decide +kernel
    unfold runExpansion expandDocument at succeeds
    rw [Expansion.bind_apply] at succeeds
    cases ran : interpreter.expandNodes nodes .empty progress with
    | error problem after =>
        rw [ran] at succeeds
        cases succeeds
    | ok value after =>
        have paid := size.1 nodes .empty progress value.1 value.2 after
          (Progress.definesUserMacros_beginning interpreter []) ran
        exact ⟨_, _, _, rfl, paid.1, paid.2 (.inl (List.cons_ne_nil _ _))⟩
  · have succeeds : (interpreter.runWithin [] source).result.isOk = true := by
      decide +kernel
    cases ran : (interpreter.runWithin [] source).result with
    | error problem =>
        rw [ran] at succeeds
        cases succeeds
    | ok document =>
        obtain ⟨nodes, expanded, scope, journal, _, built⟩ := size.2 [] source document ran
        exact ⟨document, nodes, expanded, scope, journal, rfl, built⟩

end Interpreter

end WidgetMarkup
