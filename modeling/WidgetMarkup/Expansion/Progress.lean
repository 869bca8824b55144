import WidgetMarkup.Interpreter

namespace WidgetMarkup

open Markup

/-!
# The state of an expansion

What an expansion keeps while it goes through a document. The state survives a failure, so that
what was logged and run before it is not lost.
-/

/-- How far an expansion has come. -/
structure Progress where
  /-- The macros that the document has defined. -/
  macros : NameTable MacroRule := {}
  styles : StyleSheet := {}
  /-- The number of macro calls that are going on. -/
  depth : Nat := 0
  /-- The units of work that have been charged. -/
  charged : Nat := 0
  /-- The templates that are being expanded, the outermost first. -/
  imports : List String := []
  path : TagPath := .root
  journal : Journal := {}

/-- A part of an expansion. -/
abbrev Expansion := EStateM LocatedProblem Progress

namespace Expansion

/-- Fails with a problem at the current path. -/
def fail (problem : Problem) : Expansion α :=
  fun progress => .error (problem.located progress.path) progress

/-- Writes a line of the log. -/
def record (level : LogLevel) (text : String) : Expansion Unit :=
  modify fun progress => { progress with journal := progress.journal.record level text }

/-- Does something while the path is another one. -/
def within (path : TagPath) (inner : Expansion α) : Expansion α :=
  fun progress =>
    match inner { progress with path := path } with
    | .ok value after => .ok value { after with path := progress.path }
    | .error problem after => .error problem { after with path := progress.path }

/-- Does something as part of a macro call. -/
def calling (inner : Expansion α) : Expansion α :=
  fun progress =>
    match inner { progress with depth := progress.depth + 1 } with
    | .ok value after => .ok value { after with depth := after.depth - 1 }
    | .error problem after => .error problem { after with depth := after.depth - 1 }

/-- Does something while a template is being expanded. -/
def importing (template : String) (inner : Expansion α) : Expansion α :=
  fun progress =>
    match inner { progress with imports := progress.imports ++ [template] } with
    | .ok value after => .ok value { after with imports := after.imports.dropLast }
    | .error problem after => .error problem { after with imports := after.imports.dropLast }

/-- Notes on a failure that it concerns an attribute. -/
def onAttribute (name : String) (inner : Expansion α) : Expansion α :=
  fun progress =>
    match inner progress with
    | .ok value after => .ok value after
    | .error problem after => .error (problem.withAttribute name) after

/-- The result of something, or nothing if it fails. -/
def attempt (inner : Expansion α) : Expansion (Option α) :=
  fun progress =>
    match inner progress with
    | .ok value after => .ok (some value) after
    | .error _ after => .ok none after

/-- Does something with the journal, a problem becoming another one at the current path. -/
def logged (describe : Problem → Problem) (inner : Logged α) : Expansion α :=
  fun progress =>
    match inner progress.journal with
    | .ok value journal => .ok value { progress with journal }
    | .error problem journal =>
        .error ((describe problem).located progress.path) { progress with journal }

/-- Charges one unit of work. -/
def charge (limit : Nat) : Expansion Unit := do
  modify fun progress => { progress with charged := progress.charged + 1 }
  let progress ← get
  if limit < progress.charged then
    fail (.tooLarge limit)

end Expansion

end WidgetMarkup
