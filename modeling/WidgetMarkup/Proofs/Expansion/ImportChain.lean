import WidgetMarkup.Proofs.Construction.Failures
import WidgetMarkup.Proofs.Expansion.Moments
import Mathlib.Data.Set.Card

namespace WidgetMarkup

open Markup
open Expansion (Task Moment Restores stateAfter)

/-!
# The chain of templates that are being expanded

Only one step of an expansion makes the chain longer, and it asks first whether the template is on
it. So a chain never holds a template twice, and is never longer than there are templates.
-/

namespace Expansion.Moment

/-- Whether a moment is the attempt to expand a template, its markers replaced by content. -/
def Attempts
    (moment : Moment)
    (template marker : String)
    (content : List Node) :
    Prop :=
  ∃ rule scope next,
    moment.task = .script rule (.insertTemplate template marker content scope next)

/-- Whether a moment is the attempt to expand a template that is being expanded already. -/
def Repeats (moment : Moment) (template : String) : Prop :=
  (∃ marker content, moment.Attempts template marker content) ∧
    template ∈ moment.progress.imports

/-- The problem with a template that is being expanded already: the chain, followed by it. -/
def importCycle (moment : Moment) (template : String) : LocatedProblem :=
  (Problem.importCycle (moment.progress.imports ++ [template])).located moment.progress.path

end Expansion.Moment

namespace Run

/-- The chain of templates that a run fails with, if it fails for one that is being expanded. -/
def importCycle? {α : Type} (run : Run α) : Option (List String) :=
  match run.result with
  | .error ⟨.importCycle chain, _, _⟩ => some chain
  | _ => none

theorem eq_of_importCycle?
    {α : Type}
    {run : Run α}
    {chain : List String}
    (cycle : run.importCycle? = some chain) :
    ∃ problem, run.result = .error problem ∧ problem.problem = .importCycle chain := by
  unfold importCycle? at cycle
  split at cycle
  · rename_i failed
    cases cycle
    exact ⟨_, failed, rfl⟩
  · cases cycle

end Run

namespace Interpreter

/-- Whether a template is there and reads as nodes. -/
def Loads (interpreter : Interpreter) (template : String) (nodes : List Node) : Prop :=
  ∃ source,
    interpreter.templates template = some source ∧
      forestOfSource interpreter.settings.marker source = .ok nodes

/-- Whether a moment is followed by the expansion of a template with the nodes of its own. -/
structure Enters
    (interpreter : Interpreter)
    (template marker : String)
    (content nodes : List Node)
    (earlier later : Moment) :
    Prop where
  attempts :
    earlier.Attempts template marker content
  other :
    template ∉ earlier.progress.imports
  loads :
    interpreter.Loads template nodes
  expands :
    ∃ scope, later.task = .forest (Node.replaceMarkers marker content nodes) scope
  imports :
    later.progress.imports = earlier.progress.imports ++ [template]

/-- Whether templates may be being expanded, one inside another: none is inside itself, and all of
them were read. -/
structure IsImportChain (interpreter : Interpreter) (imports : List String) : Prop where
  nodup :
    imports.Nodup
  loads :
    ∀ template ∈ imports, ∃ nodes, interpreter.Loads template nodes

variable {interpreter : Interpreter} {earlier later : Moment}

namespace IsImportChain

theorem nil :
    interpreter.IsImportChain [] :=
  ⟨List.nodup_nil, fun _ member => nomatch member⟩

/-- A chain may go on with a template that is not on it. -/
theorem snoc
    {imports nodes template}
    (chain : interpreter.IsImportChain imports)
    (other : template ∉ imports)
    (loads : interpreter.Loads template nodes) :
    interpreter.IsImportChain (imports ++ [template]) where
  nodup := List.nodup_append.2
    ⟨chain.nodup, List.nodup_singleton template, fun member isMember last isLast => by
      rw [List.mem_singleton.1 isLast]
      exact fun same => other (same ▸ isMember)⟩
  loads member isMember := by
    rcases List.mem_append.1 isMember with before | last
    · exact chain.loads member before
    · exact ⟨nodes, List.mem_singleton.1 last ▸ loads⟩

/-- A chain is no longer than there are templates. -/
theorem length_le
    {imports : List String}
    (chain : interpreter.IsImportChain imports) :
    (imports.length : ℕ∞) ≤ {template | ∃ nodes, interpreter.Loads template nodes}.encard := by
  rw [← List.toFinset_card_of_nodup chain.nodup, ← Set.encard_coe_eq_coe_finsetCard]
  exact Set.encard_le_encard fun template member =>
    chain.loads template (List.mem_toFinset.1 member)

end IsImportChain

/-- The chain stays the same from one moment to the next, unless a template is entered. -/
theorem Proceeds.imports_or_enters
    (proceeds : interpreter.Proceeds earlier later) :
    later.progress.imports = earlier.progress.imports ∨
      ∃ template marker content nodes,
        interpreter.Enters template marker content nodes earlier later := by
  cases proceeds with
  | visit charged | iteration charged =>
      exact .inl ((Restores.charge _).of_ok charged).imports
  | others charged first =>
      have restored := (restores_perform (.node _ _)).of_ok first
      exact .inl (restored.imports.trans ((Restores.charge _).of_ok charged).imports)
  | inside isTag prepared =>
      exact .inl ((onlyLogs_prepareTag _ _).restores.of_ok prepared).imports
  | call isCall found shallow prepared =>
      exact .inl ((onlyLogs_prepareCall _ _ _ _).restores.of_ok prepared).imports
  | step isStep ran =>
      exact .inl ((restores_step isStep).of_ok ran).imports
  | pass =>
      exact .inl rfl
  | afterPass passed =>
      exact .inl ((restores_expandNodes _ _).of_ok passed).imports
  | insertion loaded =>
      obtain ⟨other, loads, rfl⟩ := loadTemplate_eq_ok loaded
      exact .inr ⟨_, _, _, _, ⟨_, _, _, rfl⟩, other, loads, ⟨_, rfl⟩, rfl⟩
  | afterInsertion loaded passed =>
      obtain ⟨_, _, rfl⟩ := loadTemplate_eq_ok loaded
      refine .inl ?_
      simp only [((restores_expandNodes _ _).of_ok passed).imports, List.dropLast_concat]

/-- From one moment to the next, chains stay chains. -/
theorem Proceeds.isImportChain
    (proceeds : interpreter.Proceeds earlier later)
    (chain : interpreter.IsImportChain earlier.progress.imports) :
    interpreter.IsImportChain later.progress.imports := by
  rcases proceeds.imports_or_enters with same | ⟨template, marker, content, nodes, enters⟩
  · exact same ▸ chain
  · exact enters.imports ▸ chain.snoc enters.other enters.loads

theorem Reaches.isImportChain
    (reaches : interpreter.Reaches earlier later)
    (chain : interpreter.IsImportChain earlier.progress.imports) :
    interpreter.IsImportChain later.progress.imports := by
  induction reaches with
  | refl =>
      exact chain
  | tail _ last inductionHypothesis =>
      exact last.isImportChain inductionHypothesis

/-- Where the expansion for a request begins, there is at most the template that it asks for. -/
theorem Opens.isImportChain
    {request : Request}
    {opening : Moment}
    (opens : interpreter.Opens request opening) :
    interpreter.IsImportChain opening.progress.imports := by
  cases opens with
  | document read =>
      exact .nil
  | @template path source nodes found read =>
      exact IsImportChain.nil.snoc List.not_mem_nil ⟨source, found, read⟩

/-- Whether a state is come to on behalf of a moment: something is begun in it, or comes of what
was begun. -/
inductive ComesTo (interpreter : Interpreter) (opening : Moment) : Progress → Prop where
  | begun {moment}
      (reaches : interpreter.Reaches opening moment) :
      ComesTo interpreter opening moment.progress
  | ended {moment}
      (reaches : interpreter.Reaches opening moment) :
      ComesTo interpreter opening
        (stateAfter (interpreter.perform moment.task) moment.progress)

theorem ComesTo.isImportChain
    {opening : Moment}
    {progress : Progress}
    (comesTo : interpreter.ComesTo opening progress)
    (chain : interpreter.IsImportChain opening.progress.imports) :
    interpreter.IsImportChain progress.imports := by
  cases comesTo with
  | begun reaches =>
      exact reaches.isImportChain chain
  | ended reaches =>
      rw [(restores_perform _ _).imports]
      exact reaches.isImportChain chain

/-- A template that is being expanded is not expanded again. -/
theorem perform_of_repeats
    {moment : Moment}
    {template : String}
    (repeats : moment.Repeats template) :
    interpreter.perform moment.task moment.progress =
      .error (moment.importCycle template) moment.progress := by
  obtain ⟨⟨marker, content, rule, scope, next, task⟩, entered⟩ := repeats
  have loaded := @loadTemplate_apply interpreter template moment.progress
  rw [if_pos entered] at loaded
  rw [task]
  exact (@Expands.unloaded _ 0 rule _ marker content scope next _ _ _ loaded).perform_eq

/-- With the macros of the language, a moment fails for a template that is being expanded already
only if it is to expand it again. -/
theorem Fails.repeats
    {moment : Moment}
    {problem : LocatedProblem}
    {chain : List String}
    (fails : interpreter.Fails moment problem)
    (lawful : moment.IsLawful)
    (isCycle : problem.problem = .importCycle chain) :
    ∃ template, moment.Repeats template ∧ problem = moment.importCycle template := by
  have halts : problem.problem.isHalt ≠ false := by
    rw [isCycle]
    exact Bool.noConfusion
  cases fails with
  | unpaid charged | unpaidIteration charged =>
      rw [charge_eq_error charged] at isCycle
      cases isCycle
  | unfilled isTag prepared =>
      exact absurd ((onlyLogs_prepareTag _ _).noHalt _ _ _ prepared) halts
  | unknown | refused =>
      cases isCycle
  | unprepared isCall found shallow prepared =>
      exact absurd ((onlyLogs_prepareCall _ _ _ _).noHalt _ _ _ prepared) halts
  | step isStep ran =>
      obtain ⟨_, _, steps, _⟩ := lawful.task
      exact absurd (noHalt_of_step isStep steps ran) halts
  | @unloaded rule template marker content scope next _ _ _ loaded =>
      obtain ⟨_, noHalt | ⟨entered, rfl⟩⟩ := loadTemplate_eq_error loaded
      · exact absurd noHalt halts
      · exact ⟨template, ⟨⟨marker, content, rule, scope, next, rfl⟩, entered⟩, rfl⟩

/-- The expansion for a request begins with the macros of the language. -/
theorem Opens.isLawful
    {request : Request}
    {opening : Moment}
    (opens : interpreter.Opens request opening) :
    opening.IsLawful := by
  cases opens with
  | document read | template found read =>
      exact ⟨⟨0, trivial⟩, Progress.definesUserMacros_beginning interpreter _⟩

/-- With the vocabulary of the language, the expansion for a request fails for a template that is
being expanded already only where one is to be expanded again. -/
theorem Opens.exists_repeats
    {request : Request}
    {opening : Moment}
    {problem : LocatedProblem}
    {after : Progress}
    {chain : List String}
    (opens : interpreter.Opens request opening)
    (standard : interpreter.vocabulary = .standard)
    (failed : interpreter.perform opening.task opening.progress = .error problem after)
    (isCycle : problem.problem = .importCycle chain) :
    ∃ moment template,
      interpreter.Reaches opening moment ∧ moment.Repeats template ∧
        problem = moment.importCycle template := by
  obtain ⟨moment, reaches, fails⟩ := exists_perform_eq_error_iff.1 ⟨after, failed⟩
  have lawful := reaches.isLawful standard opens.isLawful
  obtain ⟨template, repeats, same⟩ := fails.repeats lawful isCycle
  exact ⟨moment, template, reaches, repeats, same⟩

/-- With the vocabulary of the language, a run that halts the engine does so while it expands. -/
theorem exists_expandNodes_of_isHalt
    {imports : List String}
    {source : String}
    {problem : LocatedProblem}
    (standard : interpreter.vocabulary = .standard)
    (failed : (interpreter.runWithin imports source).result = .error problem)
    (halts : problem.problem.isHalt = true) :
    ∃ nodes after,
      forestOfSource interpreter.settings.marker source = .ok nodes ∧
        interpreter.expandNodes nodes .empty (interpreter.beginning imports) =
          .error problem after := by
  unfold runWithin at failed
  split at failed
  · cases failed
    cases halts
  · rename_i nodes read
    split at failed
    · rename_i expansion
      cases failed
      obtain ⟨after, expanded⟩ := runExpansion_eq_error expansion
      exact ⟨nodes, after, read, expanded⟩
    · have plain := isPlain_of_runConstruction standard failed
      cases halts.symm.trans plain.isHalt

/-- What a request opens fails where its run halts the engine. -/
theorem exists_opens_of_isHalt
    {request : Request}
    {problem : LocatedProblem}
    (standard : interpreter.vocabulary = .standard)
    (failed : (interpreter.answer request).result = .error problem)
    (halts : problem.problem.isHalt = true) :
    ∃ opening after,
      interpreter.Opens request opening ∧
        interpreter.perform opening.task opening.progress = .error problem after := by
  cases request with
  | document source =>
      obtain ⟨nodes, after, read, expanded⟩ := exists_expandNodes_of_isHalt standard failed halts
      exact ⟨_, after, .document read, expanded⟩
  | template path =>
      simp only [answer, parseTemplate] at failed
      split at failed
      · cases failed
        cases halts
      · rename_i source found
        obtain ⟨nodes, after, read, expanded⟩ :=
          exists_expandNodes_of_isHalt standard failed halts
        exact ⟨_, after, .template found read, expanded⟩

/-- A run that fails for a template that is being expanded already comes to where it is to be
expanded again. -/
theorem exists_repeats_of_answer
    {request : Request}
    {problem : LocatedProblem}
    {chain : List String}
    (standard : interpreter.vocabulary = .standard)
    (failed : (interpreter.answer request).result = .error problem)
    (isCycle : problem.problem = .importCycle chain) :
    ∃ opening moment template,
      interpreter.Opens request opening ∧ interpreter.Reaches opening moment ∧
        moment.Repeats template ∧ problem = moment.importCycle template := by
  have halts : problem.problem.isHalt = true := by
    rw [isCycle]
    rfl
  obtain ⟨opening, after, opens, failed⟩ := exists_opens_of_isHalt standard failed halts
  obtain ⟨moment, template, reaches, repeats, same⟩ := opens.exists_repeats standard failed isCycle
  exact ⟨opening, moment, template, opens, reaches, repeats, same⟩

/--
In every state that the expansion for a request comes to, the chain of templates holds none twice
and only such as were read, so that it is no longer than there are templates. A template on the
chain that is to be expanded again makes the run fail with the chain and that template.
-/
theorem importChain_of_opens
    (interpreter : Interpreter)
    (request : Request)
    (opening : Moment)
    (opens : interpreter.Opens request opening) :
    (∀ progress, interpreter.ComesTo opening progress →
      interpreter.IsImportChain progress.imports ∧
        (progress.imports.length : ℕ∞) ≤
          {template | ∃ nodes, interpreter.Loads template nodes}.encard) ∧
    ∀ moment template,
      interpreter.Reaches opening moment →
        moment.Repeats template →
          interpreter.perform moment.task moment.progress =
              .error (moment.importCycle template) moment.progress ∧
            (interpreter.answer request).result = .error (moment.importCycle template) := by
  constructor
  · intro progress comesTo
    have chain := comesTo.isImportChain opens.isImportChain
    exact ⟨chain, chain.length_le⟩
  · intro moment template reaches repeats
    have failed := @perform_of_repeats interpreter _ _ repeats
    obtain ⟨after, opened⟩ := reaches.failed failed
    exact ⟨failed, opens.answer_eq_error opened⟩

/-- Of two templates that expand each other, the chain holds both when the first is to be expanded
again. -/
theorem importChain_of_opens_mutual :
    let interpreter : Interpreter :=
      { vocabulary := .standard
        templates := .ofPairs
          [("page", "<:import path=\"box\"/>"), ("box", "<:import path=\"page\"/>")] }
    ∃ opening moment,
      interpreter.Opens (.template "page") opening ∧ interpreter.Reaches opening moment ∧
        moment.Repeats "page" ∧ moment.progress.imports = ["page", "box"] ∧
        interpreter.IsImportChain ["page", "box"] ∧
        (interpreter.answer (.template "page")).result = .error (moment.importCycle "page") := by
  intro interpreter
  have standard : interpreter.vocabulary = .standard := rfl
  have fails :
      (interpreter.answer (.template "page")).importCycle? = some ["page", "box", "page"] := by
    decide +kernel
  obtain ⟨problem, failed, isCycle⟩ := Run.eq_of_importCycle? fails
  obtain ⟨opening, moment, template, opens, reaches, repeats, rfl⟩ :=
    exists_repeats_of_answer standard failed isCycle
  have chain : moment.progress.imports ++ [template] = ["page", "box"] ++ ["page"] :=
    Problem.importCycle.inj isCycle
  obtain ⟨imports, last⟩ := List.append_inj' chain rfl
  obtain rfl := List.singleton_inj.1 last
  have sound := importChain_of_opens interpreter _ _ opens
  exact ⟨opening, moment, opens, reaches, repeats, imports,
    imports ▸ (sound.1 _ (.begun reaches)).1, (sound.2 moment _ reaches repeats).2⟩

end Interpreter

end WidgetMarkup
