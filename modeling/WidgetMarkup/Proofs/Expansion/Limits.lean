import WidgetMarkup.Proofs.Expansion.Agreement

namespace WidgetMarkup

open Expansion (Event Task Outcome)

/-!
# Limits of expansions

No macro call is let in deeper than the greatest depth, and none is turned away above it. Visits
and iterations are paid for one by one, so there are no more of them than may be charged. This
holds of every history, whatever macros there are.
-/

namespace Expansion

namespace Event

/-- Whether an event keeps to the greatest depth: what is let in is no deeper, and what is turned
away would have been. -/
def IsWithin (maxDepth : Nat) : Event → Prop
  | .call _ active => active ≤ maxDepth
  | .refusal _ active => maxDepth ≤ active
  | .visit _ | .iteration | .pass _ => True

/-- Whether an event is the visit of a node. -/
def isVisit : Event → Bool
  | .visit _ => true
  | .iteration | .pass _ | .call _ _ | .refusal _ _ => false

/-- Whether an event is an iteration. -/
def isIteration : Event → Bool
  | .iteration => true
  | .visit _ | .pass _ | .call _ _ | .refusal _ _ => false

/-- Whether an event is paid for. -/
def isPaid (event : Event) : Bool :=
  event.isVisit || event.isIteration

/-- What is paid for are the visits and the iterations. -/
theorem countP_isPaid
    (events : List Event) :
    events.countP isPaid = events.countP isVisit + events.countP isIteration := by
  induction events with
  | nil =>
      rfl
  | cons event rest inductionHypothesis =>
      rw [List.countP_cons, List.countP_cons, List.countP_cons, inductionHypothesis]
      cases event <;> simp [isPaid, isVisit, isIteration] <;> omega

end Event

/-- A unit of work is charged as long as there is some left. -/
theorem charge_apply
    (limit : Nat)
    (progress : Progress) :
    charge limit progress =
      if limit < progress.charged + 1 then
        .error ((Problem.tooLarge limit).located progress.path)
          { progress with charged := progress.charged + 1 }
      else
        .ok () { progress with charged := progress.charged + 1 } := by
  change
    (if limit < progress.charged + 1 then fail (.tooLarge limit) else pure () : Expansion Unit)
      { progress with charged := progress.charged + 1 } = _
  split <;> rfl

/-- Whether the events of a task are paid for within a limit, from what was charged before on. -/
structure Spends (limit before : Nat) (events : List Event) (after : Nat) : Prop where
  charged :
    before + events.countP Event.isPaid ≤ after
  limited :
    before + events.countP Event.isPaid ≤ max before limit

namespace Spends

variable {limit before between after : Nat} {event : Event} {events events' : List Event}

theorem nothing
    (grown : before ≤ after) :
    Spends limit before [] after :=
  ⟨grown, Nat.le_max_left _ _⟩

/-- An event that is paid for is charged while there is something left. -/
theorem pay
    (isPaid : event.isPaid = true)
    (left : before < limit)
    (spends : Spends limit (before + 1) events after) :
    Spends limit before (event :: events) after := by
  obtain ⟨charged, limited⟩ := spends
  constructor <;> rw [List.countP_cons_of_pos isPaid] <;> omega

/-- An event that is not paid for spends nothing. -/
theorem skip
    (notPaid : event.isPaid = false)
    (spends : Spends limit before events after) :
    Spends limit before (event :: events) after := by
  obtain ⟨charged, limited⟩ := spends
  constructor <;> rw [List.countP_cons_of_neg (by simp [notPaid])] <;> assumption

theorem append
    (first : Spends limit before events between)
    (second : Spends limit between events' after) :
    Spends limit before (events ++ events') after := by
  obtain ⟨firstCharged, firstLimited⟩ := first
  obtain ⟨secondCharged, secondLimited⟩ := second
  constructor <;> rw [List.countP_append] <;> omega

/-- What is spent after some work without events is spent from before it on. -/
theorem mono
    (grown : before ≤ between)
    (spends : Spends limit between events after) :
    Spends limit before events after := by
  obtain ⟨charged, limited⟩ := spends
  constructor <;> omega

end Spends

end Expansion

namespace Interpreter

open Expansion (Restores Spends)

variable {interpreter : Interpreter}

/-- Work that is charged was left, and nothing else changes. -/
theorem charge_eq_ok
    {progress paid : Progress}
    (charged : interpreter.charge progress = .ok () paid) :
    progress.charged < interpreter.settings.maxExpansions ∧
      paid = { progress with charged := progress.charged + 1 } := by
  rw [charge, Expansion.charge_apply] at charged
  split at charged
  · cases charged
  · cases charged
    exact ⟨by omega, rfl⟩

/-- Work that cannot be charged makes the expansion too large. -/
theorem charge_eq_error
    {progress after : Progress}
    {problem : LocatedProblem}
    (charged : interpreter.charge progress = .error problem after) :
    problem.problem = .tooLarge interpreter.settings.maxExpansions := by
  rw [charge, Expansion.charge_apply] at charged
  split at charged
  · cases charged
    rfl
  · cases charged

namespace Expands

variable
  {active : Nat}
  {task : Task}
  {progress : Progress}
  {events : List Event}
  {outcome : Outcome}

/-- The macro calls of a history keep to the greatest depth. -/
theorem isWithin
    (expands : interpreter.Expands active task progress events outcome)
    (counted : progress.depth = active) :
    ∀ event ∈ events, event.IsWithin interpreter.settings.maxDepth := by
  induction expands with
  | nothing | unpaid | unfilled | unknown | unprepared | finished | unpaidIteration | failedStep
  | unloaded =>
      exact List.forall_mem_nil _
  | stopped charged _ first =>
      have paid := ((Restores.charge _).of_ok charged).depth.trans counted
      exact List.forall_mem_cons.2 ⟨trivial, first paid⟩
  | visited charged firstRun _ first others =>
      have paid := ((Restores.charge _).of_ok charged).depth.trans counted
      have between := firstRun.restored.depth.trans paid
      exact List.forall_mem_cons.2
        ⟨trivial, List.forall_mem_append.2 ⟨first paid, others between⟩⟩
  | tag isTag prepared _ children =>
      exact children (((onlyLogs_prepareTag _ _).restores.of_ok prepared).depth.trans counted)
  | refused isCall found deep =>
      exact List.forall_mem_singleton.2 (counted ▸ deep)
  | called isCall found shallow prepared _ body =>
      have readied := ((onlyLogs_prepareCall _ _ _ _).restores.of_ok prepared).depth.trans counted
      exact List.forall_mem_cons.2 ⟨counted ▸ shallow, body (congrArg (· + 1) readied)⟩
  | iteration charged _ rest =>
      have paid := ((Restores.charge _).of_ok charged).depth.trans counted
      exact List.forall_mem_cons.2 ⟨trivial, rest paid⟩
  | step isStep ran _ rest =>
      exact rest (((restores_step isStep).of_ok ran).depth.trans counted)
  | failedPass _ pass =>
      exact List.forall_mem_cons.2 ⟨trivial, pass counted⟩
  | pass passRun _ pass rest =>
      exact List.forall_mem_cons.2
        ⟨trivial, List.forall_mem_append.2
          ⟨pass counted, rest (passRun.restored.depth.trans counted)⟩⟩
  | failedInsertion loaded _ pass =>
      have readied := ((restores_loadTemplate _).of_ok loaded).depth.trans counted
      exact List.forall_mem_cons.2 ⟨trivial, pass readied⟩
  | insertion loaded passRun _ pass rest =>
      have readied := ((restores_loadTemplate _).of_ok loaded).depth.trans counted
      exact List.forall_mem_cons.2
        ⟨trivial, List.forall_mem_append.2
          ⟨pass readied, rest (passRun.restored.depth.trans readied)⟩⟩

/-- The visits and iterations of a history are paid for within the limit. -/
theorem spends
    (expands : interpreter.Expands active task progress events outcome) :
    Spends interpreter.settings.maxExpansions progress.charged events outcome.state.charged := by
  induction expands with
  | nothing | unknown | finished =>
      exact .nothing (Nat.le_refl _)
  | unpaid charged | unpaidIteration charged =>
      exact .nothing ((Restores.charge _).of_error charged).charged
  | stopped charged _ first =>
      obtain ⟨left, rfl⟩ := charge_eq_ok charged
      exact .pay rfl left first
  | visited charged _ _ first others =>
      obtain ⟨left, rfl⟩ := charge_eq_ok charged
      rw [Outcome.state_adapt]
      exact .pay rfl left (first.append others)
  | unfilled isTag prepared =>
      exact .nothing ((onlyLogs_prepareTag _ _).restores.of_error prepared).charged
  | tag isTag prepared _ children =>
      rw [Outcome.state_adapt]
      exact .mono ((onlyLogs_prepareTag _ _).restores.of_ok prepared).charged children
  | refused isCall found deep =>
      exact .skip rfl (.nothing (Nat.le_refl _))
  | unprepared isCall found shallow prepared =>
      exact .nothing ((onlyLogs_prepareCall _ _ _ _).restores.of_error prepared).charged
  | called isCall found shallow prepared _ body =>
      rw [Outcome.state_adapt]
      exact .skip rfl
        (.mono ((onlyLogs_prepareCall _ _ _ _).restores.of_ok prepared).charged body)
  | iteration charged _ rest =>
      obtain ⟨left, rfl⟩ := charge_eq_ok charged
      exact .pay rfl left rest
  | failedStep isStep ran =>
      exact .nothing ((restores_step isStep).of_error ran).charged
  | step isStep ran _ rest =>
      exact .mono ((restores_step isStep).of_ok ran).charged rest
  | failedPass _ pass =>
      exact .skip rfl pass
  | pass _ _ pass rest =>
      exact .skip rfl (pass.append rest)
  | unloaded loaded =>
      exact .nothing ((restores_loadTemplate _).of_error loaded).charged
  | failedInsertion loaded _ pass =>
      exact .skip rfl (.mono ((restores_loadTemplate _).of_ok loaded).charged pass)
  | insertion loaded _ _ pass rest =>
      have passed := Spends.mono ((restores_loadTemplate _).of_ok loaded).charged pass
      exact .skip rfl (passed.append rest)

end Expands

end Interpreter

end WidgetMarkup
