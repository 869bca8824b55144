import WidgetMarkup.Journal
import WidgetMarkup.Problem

namespace WidgetMarkup

/-!
# Actions

Named functions that documents refer to, plainly or with a dollar sign in front. An action runs
on a widget or, while macros are expanded, on none; every run is noted in the journal.
-/

/-- What a name stands for when it is run. -/
structure Action where
  /-- The answer without a widget. -/
  alone : Option String := none
  /-- The widget afterwards, and the answer. -/
  onWidget : Widget → Widget × Option String := fun widget => (widget, none)
  /-- What the action tells the log, given the kind of the widget. -/
  records : Option WidgetKind → List LogRecord := fun _ => []

/-- The actions that are registered. -/
structure Actions where
  entries : List (String × Action) := []

/-- Work that may fail and tells the journal about itself. -/
abbrev Logged := EStateM Problem Journal

/-- Work that succeeds in two parts has succeeded in each. -/
theorem bind_eq_ok
    {ε σ α β : Type}
    {first : EStateM ε σ α}
    {next : α → EStateM ε σ β}
    {before after : σ}
    {result : β}
    (ran : (first >>= next) before = .ok result after) :
    ∃ value between, first before = .ok value between ∧ next value between = .ok result after := by
  simp only [bind, EStateM.bind] at ran
  cases given : first before with
  | ok value between =>
      rw [given] at ran
      exact ⟨value, between, rfl, ran⟩
  | error problem between =>
      rw [given] at ran
      cases ran

namespace Logged

/-- Writes a line of the log. -/
def record (level : LogLevel) (text : String) : Logged Unit :=
  modify fun journal => journal.record level text

end Logged

namespace Actions

/-- The actions with one more, in place of any that had its name. -/
def insert (actions : Actions) (name : String) (action : Action) : Actions :=
  ⟨(name, action) :: actions.entries.filter fun old => old.1 != name⟩

/-- The action of a name. -/
def find? (actions : Actions) (name : String) : Option Action :=
  actions.entries.lookup name

/-- The registered names in the order of their characters. -/
def names (actions : Actions) : List String :=
  (actions.entries.map Prod.fst).mergeSort fun left right => decide (left ≤ right)

/-- The name in a reference: without blanks around it and without one dollar sign in front. -/
def bareName (reference : String) : String :=
  match Text.trimCharacters reference.toList with
  | '$' :: name => String.ofList name
  | name => String.ofList name

/-- Whether a reference names a registered action. -/
def contains (actions : Actions) (reference : String) : Bool :=
  (actions.find? (bareName reference)).isSome

/-- The name of a registered action that a reference names. -/
def resolve (actions : Actions) (reference : String) : Except Problem String :=
  if actions.contains reference then
    .ok (bareName reference)
  else
    .error (.unknownAction (bareName reference))

/-- Finds an action for a run on a widget or on none, and notes the run. -/
def start (actions : Actions) (reference : String) (widget : Option Widget) : Logged Action := do
  let name := bareName reference
  match actions.find? name with
  | none => throw (.unknownAction name)
  | some action => do
      Logged.record .trace ("invoking action `" ++ name ++ "`")
      modify fun journal => journal.note name widget
      (action.records (widget.map Widget.kind)).forM fun line =>
        Logged.record line.level line.text
      return action

/-- Runs an action without a widget and gives its answer. -/
def invoke (actions : Actions) (reference : String) : Logged (Option String) := do
  let action ← actions.start reference none
  return action.alone

/-- Runs an action on a widget and gives the widget afterwards and the answer. -/
def invokeOn
    (actions : Actions)
    (reference : String)
    (widget : Widget) :
    Logged (Widget × Option String) := do
  let action ← actions.start reference (some widget)
  return action.onWidget widget

/-- Runs an action on a target: on its widget, or on none for a listener. -/
def invokeOnTarget
    (actions : Actions)
    (reference : String)
    (target : Target) :
    Logged (Target × Option String) := do
  match target with
  | .widget widget => do
      let (changed, answer) ← actions.invokeOn reference widget
      return (.widget changed, answer)
  | .listener _ => do
      let answer ← actions.invoke reference
      return (target, answer)

/-- The registered names as they are shown to developers. -/
def render (actions : Actions) : String :=
  "Actions \x7b names: [" ++ Text.join ", " (actions.names.map Text.quote) ++ "] \x7d"

end Actions

end WidgetMarkup
