import WidgetMarkup.Proofs.Expansion.EnclosingTemplates
import WidgetMarkup.Proofs.Expansion.ImportChain

namespace WidgetMarkup

open Markup
open Expansion (EnclosedResults IsEnclosed)

/-!
# Documents of templates

A template can be asked for by its path, or its source can be. The two runs differ in that the
first is inside of the template from the beginning. So they are the same run, unless the template is
expanded again on the way, at some depth or other: then the first one fails, whatever the second
comes to.
-/

/-- The enclosure of a whole document by the template that it is. -/
def Enclosure.ofDocument (template : String) : Enclosure :=
  ⟨[], template, True⟩

/-- Whether two runs are the same, or the second of them, which is inside of one template more,
fails for a template that is being expanded already: with the first, the chain being longer by the
one more, or for that template. -/
inductive Run.IsEnclosed {α : Type} (template : String) : Run α → Run α → Prop where
  | same
      (run : Run α) :
      IsEnclosed template run run
  | cycle
      {problem problem' : LocatedProblem}
      {journal : Journal}
      {chain : List String}
      (outer : problem.problem = .importCycle chain)
      (inner : problem'.problem = .importCycle (template :: chain))
      (attributeName : problem.attributeName = problem'.attributeName)
      (path : problem.path = problem'.path) :
      IsEnclosed template ⟨.error problem, journal⟩ ⟨.error problem', journal⟩
  | reentered
      {run : Run α}
      {problem : LocatedProblem}
      {journal : Journal}
      {between : List String}
      (cycle : problem.problem = .importCycle (template :: between ++ [template])) :
      IsEnclosed template run ⟨.error problem, journal⟩

/-- A run that fails for a template that is being expanded already shows its chain. -/
theorem Run.importCycle?_of_error
    {α : Type}
    {problem : LocatedProblem}
    {chain : List String}
    (isCycle : problem.problem = .importCycle chain)
    (journal : Journal) :
    (⟨.error problem, journal⟩ : Run α).importCycle? = some chain := by
  obtain ⟨_, _, _⟩ := problem
  cases isCycle
  rfl

namespace Interpreter

variable {interpreter : Interpreter} {template : String}

theorem isEnclosed_expandDocument
    {enclosure : Enclosure}
    (nodes : List Node) :
    IsEnclosed enclosure (interpreter.expandDocument nodes) (interpreter.expandDocument nodes) :=
  (isEnclosed_expandNodes nodes .empty).bind fun _ => (IsEnclosed.record _ _).bind fun _ => .pure _

/-- The expansion of a document begins in the same way inside of a template. -/
theorem isEnclosed_beginning
    (interpreter : Interpreter)
    (template : String) :
    (interpreter.beginning []).IsEnclosed (.ofDocument template) []
      (interpreter.beginning [template]) where
  macros := rfl
  styles := rfl
  depth := rfl
  charged := rfl
  path := rfl
  imports := rfl
  imports' := rfl
  calls := rfl
  sameLog _ := rfl

theorem isEnclosed_runExpansion
    (nodes : List Node) :
    Run.IsEnclosed template (interpreter.runExpansion [] nodes)
      (interpreter.runExpansion [template] nodes) := by
  have ends := @isEnclosed_expandDocument interpreter _ nodes [] _ _
    (interpreter.isEnclosed_beginning template)
  unfold runExpansion
  generalize interpreter.expandDocument nodes (interpreter.beginning []) = result,
    interpreter.expandDocument nodes (interpreter.beginning [template]) = result' at ends
  cases ends with
  | ok related =>
      simp only [related.sameLog trivial]
      exact .same _
  | @error problem problem' _ _ given related =>
      obtain ⟨same, sameAttribute, samePath⟩ := given
      obtain ⟨problem, attributeName, path⟩ := problem
      obtain ⟨problem', attributeName', path'⟩ := problem'
      cases sameAttribute
      cases samePath
      simp only [related.sameLog trivial]
      cases same with
      | same =>
          exact .same _
      | cycle inner =>
          exact .cycle rfl rfl rfl rfl
  | reentered reenters =>
      obtain ⟨between, cycle⟩ := reenters
      exact .reentered cycle

/-- A run inside of a template is the run outside of it, unless it fails for a template that is
being expanded already. -/
theorem isEnclosed_runWithin
    (source : String) :
    Run.IsEnclosed template (interpreter.runWithin [] source)
      (interpreter.runWithin [template] source) := by
  unfold runWithin
  cases forestOfSource interpreter.settings.marker source with
  | error fault =>
      exact .same _
  | ok nodes =>
      have expansions := @isEnclosed_runExpansion interpreter template nodes
      dsimp only
      generalize interpreter.runExpansion [] nodes = expansion,
        interpreter.runExpansion [template] nodes = expansion' at expansions
      cases expansions with
      | same =>
          exact .same _
      | cycle outer inner attributeName path =>
          exact .cycle outer inner attributeName path
      | reentered cycle =>
          exact .reentered cycle

/--
For every template that is there: unless its run fails for a template that is being expanded
already, the run of its source is the same one, with the same result and the same journal. And
whatever the run of the source is, that of the template is the same one, or fails with a chain that
begins with the template, and then goes on as the chain that the other run fails with, or ends with
the template again.
-/
theorem parseTemplate_isEnclosed
    {source : String}
    (found : interpreter.templates template = some source) :
    ((interpreter.parseTemplate template).importCycle? = none →
      interpreter.parse source = interpreter.parseTemplate template) ∧
    (interpreter.parseTemplate template = interpreter.parse source ∨
      ∃ chain,
        (interpreter.parseTemplate template).importCycle? = some (template :: chain) ∧
          ((interpreter.parse source).importCycle? = some chain ∨
            chain.getLast? = some template)) := by
  have runs := @isEnclosed_runWithin interpreter template source
  have isRun : interpreter.parseTemplate template = interpreter.runWithin [template] source := by
    rw [parseTemplate, found]
  rw [isRun, parse]
  generalize interpreter.runWithin [] source = run,
    interpreter.runWithin [template] source = run' at runs
  cases runs with
  | same =>
      exact ⟨fun _ => rfl, .inl rfl⟩
  | @cycle problem problem' journal chain outer inner =>
      have fails : (⟨.error problem', journal⟩ : Run Document).importCycle? =
          some (template :: chain) :=
        Run.importCycle?_of_error inner journal
      refine ⟨fun noCycle => ?_, .inr ⟨chain, fails, .inl ?_⟩⟩
      · cases fails.symm.trans noCycle
      · exact Run.importCycle?_of_error outer journal
  | @reentered _ problem journal between cycle =>
      have fails : (⟨.error problem, journal⟩ : Run Document).importCycle? =
          some (template :: (between ++ [template])) :=
        Run.importCycle?_of_error cycle journal
      refine ⟨fun noCycle => ?_, .inr ⟨_, fails, .inr List.getLast?_concat⟩⟩
      cases fails.symm.trans noCycle

/-- A template that expands itself while `open` is not bound to `false`. -/
def templateOnce : String :=
  "<:if test=\"open\"><:assign open=\"false\"/><:import path=\"once\"/><:else/><label/></:if>"

/-- A template that expands another one comes to the document of its source. One that expands itself
fails, although its source comes to a document. -/
theorem parseTemplate_isEnclosed_once :
    let page := "<:import path=\"box\"/>"
    let interpreter : Interpreter :=
      { vocabulary := .standard
        templates := .ofPairs [("page", page), ("once", templateOnce), ("box", "<label/>")] }
    (interpreter.parse page = interpreter.parseTemplate "page" ∧
      (interpreter.parse page).result.isOk = true) ∧
    (∃ chain, (interpreter.parseTemplate "once").importCycle? = some ("once" :: chain)) ∧
      (interpreter.parse templateOnce).result.isOk = true := by
  intro page interpreter
  have isPage : interpreter.templates "page" = some page := by
    decide +kernel
  have isOnce : interpreter.templates "once" = some templateOnce := by
    decide +kernel
  have noCycle : (interpreter.parseTemplate "page").importCycle? = none := by
    decide +kernel
  have built : (interpreter.parse page).result.isOk = true := by
    decide +kernel
  have builtOnce : (interpreter.parse templateOnce).result.isOk = true := by
    decide +kernel
  have fails : (interpreter.parseTemplate "once").result.isOk = false := by
    decide +kernel
  refine ⟨⟨(parseTemplate_isEnclosed isPage).1 noCycle, built⟩, ?_, builtOnce⟩
  rcases (parseTemplate_isEnclosed isOnce).2 with same | ⟨chain, cycle, _⟩
  · rw [same, builtOnce] at fails
    cases fails
  · exact ⟨chain, cycle⟩

end Interpreter

end WidgetMarkup
