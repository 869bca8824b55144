import WidgetMarkup.Text.Case
import WidgetMarkup.Widget.Tree

namespace WidgetMarkup

/-!
# Journals

What a run tells the outside besides its result: the log records and the actions it has run, in
order. A journal only grows, whether the run succeeds or fails.
-/

/-- How important a record is, the most important first. -/
inductive LogLevel where
  | error
  | warning
  | info
  | debug
  | trace
deriving Repr, DecidableEq, Inhabited

namespace LogLevel

/-- The name of a level. -/
def name : LogLevel → String
  | error => "ERROR"
  | warning => "WARN"
  | info => "INFO"
  | debug => "DEBUG"
  | trace => "TRACE"

/-- How verbose a level is. -/
def verbosity : LogLevel → Nat
  | error => 1
  | warning => 2
  | info => 3
  | debug => 4
  | trace => 5

/-- Every level, the most important first. -/
def all : List LogLevel :=
  [error, warning, info, debug, trace]

/-- The verbosity that a name stands for, up to case; nothing is logged when it is off. -/
def verbosityNamed? (name : String) : Option Nat :=
  if Text.sameName name "off" then
    some 0
  else
    (all.find? fun level => Text.sameName name level.name).map verbosity

end LogLevel

/-- A line of the log. -/
structure LogRecord where
  level : LogLevel
  text : String
deriving Repr, DecidableEq, Inhabited

/-- An action that was run: its name, and the widget it was run on, as it was before. -/
structure ActionCall where
  action : String
  kind : Option WidgetKind
  id : Option String
deriving Repr, DecidableEq, Inhabited

/-- The log and the actions of a run, in order. -/
structure Journal where
  records : Array LogRecord := #[]
  calls : Array ActionCall := #[]
deriving Repr, Inhabited

namespace Journal

/-- The journal with one more line of the log. -/
def record (journal : Journal) (level : LogLevel) (text : String) : Journal :=
  { journal with records := journal.records.push ⟨level, text⟩ }

/-- The journal with one more action. -/
def note (journal : Journal) (action : String) (widget : Option Widget) : Journal :=
  { journal with
    calls := journal.calls.push ⟨action, widget.map Widget.kind, widget.bind Widget.id⟩ }

/-- The lines of the log that are no more verbose than a bound. -/
def recordsUpTo (journal : Journal) (verbosity : Nat) : List LogRecord :=
  journal.records.toList.filter fun entry => entry.level.verbosity ≤ verbosity

end Journal

end WidgetMarkup
