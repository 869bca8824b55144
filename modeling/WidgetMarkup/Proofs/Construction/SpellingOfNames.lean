import WidgetMarkup.Proofs.Construction.ParallelConstruction
import WidgetMarkup.Proofs.Expansion.ParallelRuns

namespace WidgetMarkup

open Markup

/-!
# Documents do not see the spelling of names

Documents that differ in the letter case of names, and so do their templates, are expanded in
parallel and then built in parallel. So their runs end in the same way.
-/

theorem Vocabulary.hasParallelMacros_standard :
    standard.HasParallelMacros :=
  fun _ _ same => parallel_macroRule?_standard same

namespace Interpreter

variable {interpreter : Interpreter} {templates : TextSource}

/-- The document of a forest, templates that are being expanded already being given. -/
def runForest (interpreter : Interpreter) (imports : List String) (nodes : List Node) :
    Run Document :=
  match interpreter.runExpansion imports nodes with
  | ⟨.error problem, journal⟩ => ⟨.error problem, journal⟩
  | ⟨.ok (expanded, _), journal⟩ => interpreter.runConstruction journal expanded

/-- A source is read, and the forest that it is makes the document. -/
theorem runWithin_eq
    (imports : List String)
    (source : String) :
    interpreter.runWithin imports source =
      match forestOfSource interpreter.settings.marker source with
      | .error fault => ⟨.error ((Problem.markupFault fault).located .root), {}⟩
      | .ok nodes => interpreter.runForest imports nodes :=
  rfl

theorem parallel_runForest
    (standard : interpreter.vocabulary = .standard)
    (respelled : interpreter.HasRespelled templates)
    (imports : List String)
    {nodes nodes' : List Node}
    (forests : Node.AreRespellings interpreter.vocabulary.isTag nodes nodes') :
    Run.Parallel Eq (interpreter.runForest imports nodes)
      ((interpreter.withTemplates templates).runForest imports nodes') := by
  have macros : interpreter.vocabulary.HasParallelMacros :=
    standard ▸ Vocabulary.hasParallelMacros_standard
  have expanded := parallel_runExpansion macros respelled imports forests
  unfold runForest
  generalize interpreter.runExpansion imports nodes = run,
    (interpreter.withTemplates templates).runExpansion imports nodes' = run' at expanded
  cases expanded with
  | ok same sameCalls =>
      exact parallel_runConstruction standard sameCalls same.nodes
  | error sameKind sameCalls =>
      exact .error sameKind sameCalls

theorem parallel_runWithin
    (standard : interpreter.vocabulary = .standard)
    (respelled : interpreter.HasRespelled templates)
    (imports : List String)
    {source source' : String}
    (sources :
      IsSourceRespelling interpreter.vocabulary.isTag interpreter.settings.marker source source') :
    Run.Parallel Eq (interpreter.runWithin imports source)
      ((interpreter.withTemplates templates).runWithin imports source') := by
  rw [runWithin_eq, runWithin_eq, settings_withTemplates]
  cases sources with
  | read isForest isForest' forests =>
      rw [isForest, isForest']
      exact parallel_runForest standard respelled imports forests
  | faulty isFaulty isFaulty' =>
      rw [isFaulty, isFaulty']
      exact .error ⟨rfl, rfl⟩ rfl

theorem parallel_parseTemplate
    (standard : interpreter.vocabulary = .standard)
    (respelled : interpreter.HasRespelled templates)
    (path : String) :
    Run.Parallel Eq (interpreter.parseTemplate path)
      ((interpreter.withTemplates templates).parseTemplate path) := by
  have sources := respelled path
  unfold parseTemplate
  rw [templates_withTemplates]
  generalize interpreter.templates path = found, templates path = found' at sources
  cases sources with
  | none =>
      exact .error ⟨rfl, rfl⟩ rfl
  | some sources =>
      exact parallel_runWithin standard respelled [path] sources

/--
Names are the same in all spellings, over whole documents. If two documents, and the templates that
they can insert, differ only in the letter case of the names of tags and of the names of attributes
on unmarked tags of the language, both runs give the same document, or both fail with a problem of
one kind at the same depth; the calls of actions are the same either way. So it is for documents
given as forests, as sources and as templates.
-/
theorem parallel_runs_of_hasRespelled
    (standard : interpreter.vocabulary = .standard)
    (respelled : interpreter.HasRespelled templates) :
    (∀ imports nodes nodes',
      Node.AreRespellings interpreter.vocabulary.isTag nodes nodes' →
        Run.Parallel Eq (interpreter.runForest imports nodes)
          ((interpreter.withTemplates templates).runForest imports nodes')) ∧
    (∀ source source',
      IsSourceRespelling interpreter.vocabulary.isTag interpreter.settings.marker source source' →
        Run.Parallel Eq (interpreter.parse source)
          ((interpreter.withTemplates templates).parse source')) ∧
    ∀ path,
      Run.Parallel Eq (interpreter.parseTemplate path)
        ((interpreter.withTemplates templates).parseTemplate path) :=
  ⟨fun imports _ _ forests => parallel_runForest standard respelled imports forests,
    fun _ _ sources => parallel_runWithin standard respelled [] sources,
    parallel_parseTemplate standard respelled⟩

/-- A tag and a call for a template with another one, all in two spellings. -/
theorem parallel_runs_of_capitals :
    let interpreter : Interpreter :=
      { vocabulary := .standard, templates := .ofPairs [("t", "<label text=\"b\"/>")] }
    let templates : TextSource := .ofPairs [("t", "<Label TEXT=\"b\"/>")]
    let nodes : List Node :=
      [⟨"label", false, [⟨"text", "a"⟩], [], "", ⟨1, 1⟩⟩,
        ⟨"import", true, [⟨"path", "t"⟩], [], "", ⟨2, 1⟩⟩]
    let nodes' : List Node :=
      [⟨"LABEL", false, [⟨"Text", "a"⟩], [], "", ⟨1, 1⟩⟩,
        ⟨"Import", true, [⟨"path", "t"⟩], [], "", ⟨2, 1⟩⟩]
    interpreter.HasRespelled templates ∧
      Node.AreRespellings interpreter.vocabulary.isTag nodes nodes' ∧
      ∃ document,
        (interpreter.runForest [] nodes).result = .ok document ∧
          ((interpreter.withTemplates templates).runForest [] nodes').result = .ok document := by
  intro interpreter templates nodes nodes'
  have free : (!false && interpreter.vocabulary.isTag "label") = true := by decide +kernel
  have reads (name entry source : String)
      (isTokens :
        tokensOfSource ':' source =
          .ok [⟨.opening name false [⟨entry, "b"⟩] true, ⟨1, 1⟩⟩, ⟨.endOfSource, ⟨1, 18⟩⟩]) :
      forestOfSource ':' source = .ok [⟨name, false, [⟨entry, "b"⟩], [], "", ⟨1, 1⟩⟩] := by
    unfold forestOfSource
    rw [isTokens]
    rfl
  have text (capitals : String)
      (same : "text".toList.map Char.toLower = capitals.toList.map Char.toLower)
      (value : String) :
      Attribute.IsRespelling (!false && interpreter.vocabulary.isTag "label") ⟨"text", value⟩
        ⟨capitals, value⟩ :=
    ⟨rfl, .inr ⟨free, Text.sameName_iff_toList.2 same⟩⟩
  have label :
      IsSourceRespelling interpreter.vocabulary.isTag ':' "<label text=\"b\"/>"
        "<Label TEXT=\"b\"/>" :=
    .read (reads "label" "text" _ (by decide +kernel)) (reads "Label" "TEXT" _ (by decide +kernel))
      (.cons (.node (Text.sameName_iff_toList.2 (by decide))
        (.cons (text "TEXT" (by decide) "b") .nil) .nil) .nil)
  have respelled : interpreter.HasRespelled templates := by
    intro template
    by_cases named : template = "t"
    · subst named
      exact .some label
    · have absent : (template == "t") = false := by simpa using named
      simp only [interpreter, templates, TextSource.ofPairs, List.lookup_cons, absent]
      exact .none
  have forests : Node.AreRespellings interpreter.vocabulary.isTag nodes nodes' :=
    .cons (.node (Text.sameName_iff_toList.2 (by decide))
        (.cons (text "Text" (by decide) "a") .nil) .nil)
      (.cons (.node (Text.sameName_iff_toList.2 (by decide)) (.refl _ _) .nil) .nil)
  have given : (interpreter.runForest [] nodes).result.isOk = true := by
    decide +kernel
  have standard : interpreter.vocabulary = .standard := rfl
  have ends := (parallel_runs_of_hasRespelled standard respelled).1 [] nodes nodes' forests
  refine ⟨respelled, forests, ?_⟩
  generalize interpreter.runForest [] nodes = run,
    (interpreter.withTemplates templates).runForest [] nodes' = run' at ends given
  cases ends with
  | ok same _ =>
      exact ⟨_, rfl, congrArg Except.ok same.symm⟩
  | error _ _ =>
      cases given

end Interpreter

end WidgetMarkup
