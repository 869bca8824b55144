import WidgetMarkup.Proofs.Expansion.Limits
import WidgetMarkup.Proofs.Vocabulary.LawfulMacros

namespace WidgetMarkup

open Markup
open Expansion (Event Task Outcome OnlyLogs)

/-!
# The order of expansions

With the macros of the language, a macro call makes one pass over nodes at most but for those that
are paid for as iterations, loops pay for all of theirs, and an expansion fails for its depth only
where a macro call was turned away.
-/

/-- Whether a problem is that macro calls are nested too deep. -/
def Problem.isTooDeep : Problem → Bool
  | .tooDeep _ => true
  | _ => false

/-- What does not halt the engine is not too deep. -/
theorem Problem.isTooDeep_of_isHalt
    {problem : Problem}
    (noHalt : problem.isHalt = false) :
    problem.isTooDeep = false := by
  cases problem <;> first | rfl | cases noHalt

/-- Whether the macros that a document has defined are such as documents define. -/
def Progress.DefinesUserMacros (progress : Progress) : Prop :=
  ∀ name rule, progress.macros.find? name = some rule →
    ∃ definition : UserMacro, definition.toRule = rule

namespace Progress

/-- At the beginning, a document has defined no macros. -/
theorem definesUserMacros_beginning
    (interpreter : Interpreter)
    (imports : List String) :
    (interpreter.beginning imports).DefinesUserMacros := by
  intro name rule found
  cases found

/-- A document may define one more macro. -/
theorem DefinesUserMacros.insert
    {progress : Progress}
    (defines : progress.DefinesUserMacros)
    (name : String)
    (definition : UserMacro) :
    { progress with
      macros := progress.macros.insert name definition.toRule }.DefinesUserMacros := by
  intro other rule found
  rw [NameTable.find?_insert] at found
  split at found
  · cases found
    exact ⟨definition, rfl⟩
  · exact defines other rule found

end Progress

namespace Expansion

/-- Whether an event is a pass over nodes by a macro that counts. -/
def Event.isPassOf (counts : MacroRule → Bool) : Event → Bool
  | .pass rule => counts rule
  | .visit _ | .iteration | .call _ _ | .refusal _ _ => false

/-- Whether an event is a macro call that is let in. -/
def Event.isCall : Event → Bool
  | .call _ _ => true
  | .visit _ | .iteration | .pass _ | .refusal _ _ => false

/--
Whether a task is lawful: if it is a script, the script is, and if its macro counts, it takes no
more for free than is given.
-/
def Task.IsLawful (counts : MacroRule → Bool) (free : Nat) : Task → Prop
  | .script rule steps => ∃ taken, steps.IsLawful taken ∧ (counts rule = true → taken ≤ free)
  | .forest _ _ | .node _ _ => True

/-- What is left of a script after a pass is lawful with what is left for free. -/
theorem Task.isLawful_next
    {counts : MacroRule → Bool}
    {free taken : Nat}
    {rule : MacroRule}
    {next : Script}
    (isTaken : 0 < taken)
    (lawful : next.IsLawful (taken - 1))
    (given : counts rule = true → taken ≤ free) :
    Task.IsLawful counts (if counts rule then free - 1 else free) (.script rule next) := by
  refine ⟨taken - 1, lawful, fun counted => ?_⟩
  have := given counted
  rw [if_pos counted]
  omega

/--
What comes of a lawful task: the macros that count make as many passes as are free, as their calls
allow and as are paid for; only macros of documents are defined; and nothing fails for the depth
but where a macro call is turned away.
-/
structure Orderly
    (counts : MacroRule → Bool)
    (allowance free : Nat)
    (events : List Event)
    (outcome : Outcome) :
    Prop where
  passes :
    events.countP (Event.isPassOf counts) ≤
      free + (allowance * events.countP Event.isCall + events.countP Event.isIteration)
  defines :
    ∀ value after, outcome = .ok value after → after.DefinesUserMacros
  refusal :
    ∀ problem after, outcome = .error problem after → problem.problem.isTooDeep = true →
      ∃ node active, .refusal node active ∈ events

/-- Where there is only logging, no macro is defined. -/
theorem OnlyLogs.definesUserMacros
    {α : Type}
    {inner : Expansion α}
    {progress after : Progress}
    {value : α}
    (onlyLogs : OnlyLogs inner)
    (ran : inner progress = .ok value after)
    (defines : progress.DefinesUserMacros) :
    after.DefinesUserMacros := by
  obtain ⟨journal, rfl⟩ := onlyLogs.of_ok ran
  exact defines

namespace Orderly

variable
  {counts : MacroRule → Bool}
  {allowance free : Nat}
  {events events' : List Event}
  {outcome : Outcome}

/-- To succeed before anything happens is orderly. -/
theorem succeeded
    {value : List Node × Scope}
    {after : Progress}
    (defines : after.DefinesUserMacros) :
    Orderly counts allowance free [] (.ok value after) where
  passes := Nat.zero_le _
  defines := by
    rintro _ _ ⟨⟩
    exact defines
  refusal := by
    rintro _ _ ⟨⟩

theorem failed
    {problem : LocatedProblem}
    {after : Progress}
    (other : problem.problem.isTooDeep = false) :
    Orderly counts allowance free [] (.error problem after) where
  passes := Nat.zero_le _
  defines := by
    rintro _ _ ⟨⟩
  refusal := by
    rintro _ _ ⟨⟩ tooDeep
    rw [other] at tooDeep
    cases tooDeep

/-- To fail where there is only logging is orderly. -/
theorem ofOnlyLogs
    {α : Type}
    {inner : Expansion α}
    {progress after after' : Progress}
    {problem : LocatedProblem}
    (onlyLogs : OnlyLogs inner)
    (ran : inner progress = .error problem after) :
    Orderly counts allowance free [] (.error problem after') :=
  .failed (Problem.isTooDeep_of_isHalt (onlyLogs.noHalt progress problem after ran))

/-- A failure keeps to order in any state. -/
theorem failed_of
    {problem : LocatedProblem}
    {after after' : Progress}
    (orderly : Orderly counts allowance free events (.error problem after)) :
    Orderly counts allowance free events (.error problem after') where
  passes := orderly.passes
  defines := by
    rintro _ _ ⟨⟩
  refusal := by
    rintro _ _ ⟨⟩
    exact orderly.refusal problem after rfl

/-- What is done after something that succeeds is orderly with it. -/
theorem append
    {value : List Node × Scope}
    {between : Progress}
    (first : Orderly counts allowance 0 events (.ok value between))
    (second : Orderly counts allowance free events' outcome) :
    Orderly counts allowance free (events ++ events') outcome where
  passes := by
    have firstPasses := first.passes
    have secondPasses := second.passes
    rw [List.countP_append, List.countP_append, List.countP_append, Nat.mul_add]
    omega
  defines := second.defines
  refusal problem after isFailure tooDeep := by
    obtain ⟨node, active, member⟩ := second.refusal problem after isFailure tooDeep
    exact ⟨node, active, List.mem_append_right events member⟩

/-- An event in front keeps to order if the passes do. -/
theorem cons
    {free' : Nat}
    {event : Event}
    (orderly : Orderly counts allowance free' events outcome)
    (allowed :
      (if event.isPassOf counts then 1 else 0) + free' ≤
        free + (allowance * (if event.isCall then 1 else 0) +
          if event.isIteration then 1 else 0)) :
    Orderly counts allowance free (event :: events) outcome where
  passes := by
    have passes := orderly.passes
    rw [List.countP_cons, List.countP_cons, List.countP_cons, Nat.mul_add]
    omega
  defines := orderly.defines
  refusal problem after isFailure tooDeep := by
    obtain ⟨node, active, member⟩ := orderly.refusal problem after isFailure tooDeep
    exact ⟨node, active, .tail _ member⟩

theorem visit
    (node : Node)
    (orderly : Orderly counts allowance free events outcome) :
    Orderly counts allowance free (.visit node :: events) outcome :=
  orderly.cons (by simp [Event.isPassOf])

theorem iteration
    (orderly : Orderly counts allowance (free + 1) events outcome) :
    Orderly counts allowance free (.iteration :: events) outcome :=
  orderly.cons (by simp [Event.isPassOf, Event.isCall, Event.isIteration])

theorem call
    (node : Node)
    (active : Nat)
    (orderly : Orderly counts allowance allowance events outcome) :
    Orderly counts allowance free (.call node active :: events) outcome :=
  orderly.cons (by simp [Event.isPassOf, Event.isCall, Event.isIteration])

/-- A pass of a macro that counts takes one of those that are free. -/
theorem pass
    {rule : MacroRule}
    (isFree : counts rule = true → 0 < free)
    (orderly :
      Orderly counts allowance (if counts rule then free - 1 else free) events outcome) :
    Orderly counts allowance free (.pass rule :: events) outcome := by
  refine orderly.cons ?_
  cases counted : counts rule with
  | true =>
      have := isFree counted
      simp [Event.isPassOf, Event.isCall, Event.isIteration, counted]
      omega
  | false =>
      simp [Event.isPassOf, Event.isCall, Event.isIteration, counted]

/-- An outcome that is changed without touching macros keeps to order. -/
theorem adapt
    (orderly : Orderly counts allowance free events outcome)
    (give : List Node × Scope → List Node × Scope)
    {restore : Progress → Progress}
    (untouched : ∀ progress, (restore progress).macros = progress.macros) :
    Orderly counts allowance free events (outcome.adapt give restore) where
  passes := orderly.passes
  defines value after isSuccess := by
    cases outcome with
    | error problem before =>
        cases isSuccess
    | ok value' before =>
        cases isSuccess
        rw [Progress.DefinesUserMacros, untouched]
        exact orderly.defines value' before rfl
  refusal problem after isFailure tooDeep := by
    obtain ⟨before, same⟩ := Outcome.adapt_eq_error isFailure
    exact orderly.refusal problem before same tooDeep

end Orderly

end Expansion

namespace Interpreter

open Expansion (Orderly)

variable {interpreter : Interpreter}

/-- The macros that are found act in the ways of the language, with its vocabulary. -/
theorem isStandard_of_findMacro?
    (standard : interpreter.vocabulary = .standard)
    {progress : Progress}
    (defines : progress.DefinesUserMacros)
    {name : String}
    {rule : MacroRule}
    (found : interpreter.findMacro? progress name = some rule) :
    rule.IsStandard := by
  rw [findMacro?] at found
  cases defined : progress.macros.find? name with
  | some rule' =>
      rw [defined] at found
      cases found
      obtain ⟨definition, rfl⟩ := defines name rule defined
      exact definition.isStandard_toRule
  | none =>
      rw [defined, standard] at found
      exact Vocabulary.hasStandardRules_standard.macros name rule found

/-- A step of a lawful script leaves a lawful script and defines what documents define. -/
theorem isLawful_of_step
    {script next : Script}
    {inner : Expansion Script}
    {free : Nat}
    {progress between : Progress}
    (isStep : interpreter.step? script = some inner)
    (lawful : script.IsLawful free)
    (defines : progress.DefinesUserMacros)
    (ran : inner progress = .ok next between) :
    next.IsLawful free ∧ between.DefinesUserMacros := by
  cases script <;> simp only [step?, Option.some.injEq, reduceCtorEq] at isStep <;> subst isStep
  case fail problem =>
    cases ran
  case interpolate raw scope next' =>
    obtain ⟨text, given, rfl⟩ := Expansion.map_eq_ok ran
    have onlyLogs := interpreter.onlyLogs_interpolate scope raw
    exact ⟨lawful text, onlyLogs.definesUserMacros given defines⟩
  case evaluate source scope next' =>
    obtain ⟨value, given, rfl⟩ := Expansion.map_eq_ok ran
    have onlyLogs := interpreter.onlyLogs_evaluate scope source
    exact ⟨lawful value, onlyLogs.definesUserMacros given defines⟩
  case invoke reference next' =>
    obtain ⟨answer, given, rfl⟩ := Expansion.map_eq_ok ran
    have onlyLogs := interpreter.onlyLogs_invoke reference
    exact ⟨lawful answer, onlyLogs.definesUserMacros given defines⟩
  case define name interpolates body next' =>
    obtain ⟨⟨definition, same⟩, lawful⟩ := lawful
    cases ran
    rw [← same]
    exact ⟨lawful, defines.insert name definition⟩
  case addDefault tag entry next' | record level text next' =>
    cases ran
    exact ⟨lawful, defines⟩

/-- A step of a lawful script that fails does not halt the engine. -/
theorem noHalt_of_step
    {script : Script}
    {inner : Expansion Script}
    {free : Nat}
    {progress after : Progress}
    {problem : LocatedProblem}
    (isStep : interpreter.step? script = some inner)
    (lawful : script.IsLawful free)
    (ran : inner progress = .error problem after) :
    problem.problem.isHalt = false := by
  cases script <;> simp only [step?, Option.some.injEq, reduceCtorEq] at isStep <;> subst isStep
  case fail problem' =>
    cases ran
    exact lawful
  case interpolate raw scope next =>
    exact ((interpreter.onlyLogs_interpolate scope raw).map next).noHalt _ _ _ ran
  case evaluate source scope next =>
    exact ((interpreter.onlyLogs_evaluate scope source).map next).noHalt _ _ _ ran
  case invoke reference next =>
    exact ((interpreter.onlyLogs_invoke reference).map next).noHalt _ _ _ ran
  case define | addDefault | record =>
    cases ran

namespace Expands

variable
  {active : Nat}
  {task : Task}
  {progress : Progress}
  {events : List Event}
  {outcome : Outcome}

/-- Lawful tasks go on in order, with the vocabulary of the language. -/
theorem orderly
    {counts : MacroRule → Bool}
    {allowance : Nat}
    (expands : interpreter.Expands active task progress events outcome)
    (standard : interpreter.vocabulary = .standard)
    (allows : ∀ rule, counts rule = true → rule.IsLawful 1 → rule.IsLawful allowance)
    {free : Nat}
    (lawful : task.IsLawful counts free)
    (defines : progress.DefinesUserMacros) :
    Orderly counts allowance free events outcome := by
  induction expands generalizing free with
  | nothing | finished =>
      exact .succeeded defines
  | unpaid charged | unpaidIteration charged =>
      refine .failed ?_
      rw [charge_eq_error charged]
      rfl
  | stopped charged _ first =>
      obtain ⟨_, rfl⟩ := charge_eq_ok charged
      exact (first trivial defines).visit _
  | visited charged _ _ first others =>
      obtain ⟨_, rfl⟩ := charge_eq_ok charged
      have visited := @first 0 trivial defines
      have rest := @others free trivial (visited.defines _ _ rfl)
      exact .visit _ (.adapt (visited.append rest) _ fun _ => rfl)
  | unfilled isTag prepared =>
      exact .ofOnlyLogs (onlyLogs_prepareTag _ _) prepared
  | tag isTag prepared _ children =>
      have definesReady := (onlyLogs_prepareTag _ _).definesUserMacros prepared defines
      exact (children trivial definesReady).adapt _ fun _ => rfl
  | refused isCall found deep =>
      refine ⟨Nat.zero_le _, ?_, fun _ _ _ _ => ⟨_, _, List.mem_singleton_self _⟩⟩
      rintro _ _ ⟨⟩
  | unknown isCall found =>
      exact .failed rfl
  | unprepared isCall found shallow prepared =>
      exact .ofOnlyLogs (onlyLogs_prepareCall _ _ _ _) prepared
  | @called _ _ _ _ rule _ _ _ _ isCall found shallow prepared _ body =>
      have definesReady := (onlyLogs_prepareCall _ _ _ _).definesUserMacros prepared defines
      have lawful := (isStandard_of_findMacro? standard defines found).isLawful
      refine .call _ _ (.adapt (body ?_ definesReady) _ fun _ => rfl)
      cases counted : counts rule with
      | true =>
          exact ⟨allowance, allows rule counted lawful _ _ _, fun _ => Nat.le_refl _⟩
      | false =>
          exact ⟨1, lawful _ _ _, fun isCounted => nomatch counted.symm.trans isCounted⟩
  | iteration charged _ rest =>
      obtain ⟨_, rfl⟩ := charge_eq_ok charged
      obtain ⟨taken, lawful, given⟩ := lawful
      exact .iteration
        (rest ⟨taken + 1, lawful, fun counted => Nat.succ_le_succ (given counted)⟩ defines)
  | failedStep isStep ran =>
      obtain ⟨taken, lawful, given⟩ := lawful
      exact .failed (Problem.isTooDeep_of_isHalt (noHalt_of_step isStep lawful ran))
  | step isStep ran _ rest =>
      obtain ⟨taken, lawful, given⟩ := lawful
      obtain ⟨lawfulNext, definesNext⟩ := isLawful_of_step isStep lawful defines ran
      exact rest ⟨taken, lawfulNext, given⟩ definesNext
  | failedPass _ pass =>
      obtain ⟨taken, ⟨isTaken, lawful⟩, given⟩ := lawful
      exact .pass (fun counted => Nat.lt_of_lt_of_le isTaken (given counted))
        (pass trivial defines)
  | pass _ _ pass rest =>
      obtain ⟨taken, ⟨isTaken, lawful⟩, given⟩ := lawful
      have passed := @pass 0 trivial defines
      have others := rest (Task.isLawful_next isTaken (lawful _ _) given) (passed.defines _ _ rfl)
      exact .pass (fun counted => Nat.lt_of_lt_of_le isTaken (given counted))
        (passed.append others)
  | unloaded loaded =>
      obtain ⟨_, noHalt | ⟨_, rfl⟩⟩ := loadTemplate_eq_error loaded
      · exact .failed (Problem.isTooDeep_of_isHalt noHalt)
      · exact .failed rfl
  | failedInsertion loaded _ pass =>
      obtain ⟨taken, ⟨isTaken, lawful⟩, given⟩ := lawful
      obtain ⟨_, _, rfl⟩ := loadTemplate_eq_ok loaded
      exact .pass (fun counted => Nat.lt_of_lt_of_le isTaken (given counted))
        (.failed_of (pass trivial defines))
  | insertion loaded _ _ pass rest =>
      obtain ⟨taken, ⟨isTaken, lawful⟩, given⟩ := lawful
      obtain ⟨_, _, rfl⟩ := loadTemplate_eq_ok loaded
      have passed := @pass 0 trivial defines
      have definesBetween := passed.defines _ _ rfl
      have others := rest (Task.isLawful_next isTaken (lawful _) given) definesBetween
      exact .pass (fun counted => Nat.lt_of_lt_of_le isTaken (given counted))
        (passed.append others)

/-- A lawful task that succeeds leaves a state in which documents have defined the macros. -/
theorem definesUserMacros
    {value : List Node × Scope}
    {after : Progress}
    (expands : interpreter.Expands active task progress events (.ok value after))
    (standard : interpreter.vocabulary = .standard)
    (taken : Nat)
    (lawful : task.IsLawful (fun _ => false) taken)
    (defines : progress.DefinesUserMacros) :
    after.DefinesUserMacros :=
  (@orderly _ _ _ _ _ _ (fun _ => false) 0 expands standard (fun _ counted => nomatch counted)
    taken lawful defines).defines value after rfl

end Expands

end Interpreter

end WidgetMarkup
