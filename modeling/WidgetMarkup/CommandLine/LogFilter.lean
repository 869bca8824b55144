import WidgetMarkup.Journal
import WidgetMarkup.Text.Blank

namespace WidgetMarkup.CommandLine

/-!
# Log filters

What a command line wants to see of the log. A filter is a list of directives between commas: a
level for all records, a source with a level, or a source alone, of which everything is shown. A
pattern for the texts may stand after a slash; it plays no part here. A directive that cannot be
read is left out with a warning.
-/

/-- What is shown of a source, or of all sources that have no directive of their own. -/
structure Directive where
  source : Option String
  verbosity : Nat
deriving Repr, DecidableEq

/-- A part of a filter that cannot be read. -/
inductive FilterFault where
  | malformed (part : String)
  | tooManySlashes (filter : String)
deriving Repr, DecidableEq

namespace FilterFault

/-- The warning about a fault. -/
def warning : FilterFault → String
  | malformed part => "warning: invalid logging spec '" ++ part ++ "', ignoring it\n"
  | tooManySlashes filter =>
      "warning: invalid logging spec '" ++ filter ++ "' (too many '/'s), ignoring it\n"

end FilterFault

namespace Directive

/-- The directive for a source; every source goes by the blank name. -/
def ofSource (source : String) (verbosity : Nat) : Directive :=
  ⟨if source.isEmpty then none else some source, verbosity⟩

/-- Reads a directive. -/
def read (raw : String) : Except FilterFault Directive :=
  match Text.split '=' raw with
  | [name] =>
      match LogLevel.verbosityNamed? name with
      | some verbosity => .ok ⟨none, verbosity⟩
      | none => .ok (ofSource name LogLevel.trace.verbosity)
  | [source, name] =>
      if (Text.trim name).isEmpty then
        .ok (ofSource source LogLevel.trace.verbosity)
      else
        match LogLevel.verbosityNamed? (Text.trim name) with
        | some verbosity => .ok (ofSource source verbosity)
        | none => .error (.malformed (Text.trim name))
  | _ => .error (.malformed raw)

end Directive

/-- The directives of a filter, and what could not be read of it. -/
structure LogFilter where
  directives : List Directive := []
  faults : List FilterFault := []
deriving Repr, DecidableEq

namespace LogFilter

/-- The filter with one more directive, or with one more fault. -/
def add (filter : LogFilter) (raw : String) : LogFilter :=
  match Directive.read raw with
  | .ok directive => { filter with directives := filter.directives ++ [directive] }
  | .error fault => { filter with faults := filter.faults ++ [fault] }

/-- The filter made of directives as they are written; blank ones do not count. -/
def ofParts (parts : List String) : LogFilter :=
  ((parts.map Text.trim).filter fun part => !part.isEmpty).foldl add {}

/-- Reads a filter. -/
def read (raw : String) : LogFilter :=
  match Text.split '/' raw with
  | [] => {}
  | [directives] => ofParts (Text.split ',' directives)
  | [directives, _] => ofParts (Text.split ',' directives)
  | _ => { faults := [.tooManySlashes raw] }

/--
How much is shown of a source without a directive of its own: what the last directive for all says,
nothing if all directives name a source, and the errors if there are no directives.
-/
def verbosity (filter : LogFilter) : Nat :=
  if filter.directives.isEmpty then
    LogLevel.error.verbosity
  else
    match (filter.directives.filter fun directive => directive.source.isNone).getLast? with
    | some directive => directive.verbosity
    | none => 0

/-- The warnings about what could not be read. -/
def warnings (filter : LogFilter) : String :=
  String.join (filter.faults.map FilterFault.warning)

end LogFilter

end WidgetMarkup.CommandLine
