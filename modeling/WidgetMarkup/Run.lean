import WidgetMarkup.Construction.Build
import WidgetMarkup.Expansion.Engine

namespace WidgetMarkup

open Markup

/-!
# Runs

From a source text to its document: the markup is read, its macros are expanded, and the expanded
tags are built. A run gives a document or a located problem, and in either case its journal.
-/

/-- The result of a run and what it told the outside. -/
structure Run (α : Type) where
  result : Except LocatedProblem α
  journal : Journal

namespace Interpreter

/-- Expands the nodes of a document, templates that are being expanded already being given. -/
def runExpansion (interpreter : Interpreter) (imports : List String) (nodes : List Node) :
    Run (List Node × Scope) :=
  match interpreter.expandDocument nodes (interpreter.beginning imports) with
  | .ok expanded progress => ⟨.ok expanded, progress.journal⟩
  | .error problem progress => ⟨.error problem, progress.journal⟩

/-- Builds a document from expanded nodes, going on with a journal. -/
def runConstruction (interpreter : Interpreter) (journal : Journal) (nodes : List Node) :
    Run Document :=
  match interpreter.build nodes { journal } with
  | .ok document register => ⟨.ok document, register.journal⟩
  | .error problem register => ⟨.error problem, register.journal⟩

/-- The document of a source, templates that are being expanded already being given. -/
def runWithin (interpreter : Interpreter) (imports : List String) (source : String) :
    Run Document :=
  match forestOfSource interpreter.settings.marker source with
  | .error fault => ⟨.error ((Problem.markupFault fault).located .root), {}⟩
  | .ok nodes =>
      match interpreter.runExpansion imports nodes with
      | ⟨.error problem, journal⟩ => ⟨.error problem, journal⟩
      | ⟨.ok (expanded, _), journal⟩ => interpreter.runConstruction journal expanded

/-- The document of a source. -/
def parse (interpreter : Interpreter) (source : String) : Run Document :=
  interpreter.runWithin [] source

/-- The document of a template. -/
def parseTemplate (interpreter : Interpreter) (path : String) : Run Document :=
  match interpreter.templates path with
  | none => ⟨.error ((Problem.templateNotFound path).located .root), {}⟩
  | some source => interpreter.runWithin [path] source

end Interpreter

end WidgetMarkup
