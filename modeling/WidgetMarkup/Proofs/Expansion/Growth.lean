import WidgetMarkup.Proofs.Expansion.ImportChain
import WidgetMarkup.Proofs.Expansion.WrittenMacros
import WidgetMarkup.Proofs.Markup.SubstitutedSizes
import WidgetMarkup.Proofs.Vocabulary.HandledNodes

namespace WidgetMarkup

open Markup
open Expansion (Event Moment OnlyLogs Outcome Task)

/-!
# How large content makes bodies and templates

Work is charged for nodes that are visited, and not for those that are only put together. A body
that passes its content on, to a call that puts it in place of markers again, makes it grow with
every such call. Where no body and no template does that, all that is put together is made of nodes
as they are written: those of the body, and those of the content once for each marker.
-/

namespace Markup.Node

/-- Whether nodes are part of others: they are no more, and all of them are among those. -/
structure ArePart (originals nodes : List Node) : Prop where
  size : sizeAll nodes ≤ sizeAll originals
  isWithin : ∀ node, IsWithin nodes node → IsWithin originals node

theorem IsWithin.childrenArePart
    {originals : List Node}
    {node : Node}
    (isWithin : IsWithin originals node) :
    ArePart originals node.children where
  size := by
    have fits := isWithin.size_le
    rw [size_eq] at fits
    omega
  isWithin _ := isWithin.deeper

/-- Each of several forests is part of all of them together. -/
theorem arePart_of_mem
    {nodes read : List Node}
    {forests : List (List Node)}
    (member : read ∈ forests) :
    ArePart (nodes ++ forests.flatten) read where
  size := by
    obtain ⟨earlier, later, rfl⟩ := List.mem_iff_append.1 member
    rw [List.flatten_append, List.flatten_cons, sizeAll_append, sizeAll_append, sizeAll_append]
    omega
  isWithin node isWithin :=
    isWithin.mono fun _ listed =>
      List.mem_append_right _ (List.mem_flatten_of_mem member listed)

end Markup.Node

open Node (ArePart)

/-- Where macros bind their parameters and then expand nodes, in the same way, they expand the same
nodes. -/
theorem UserMacro.nodes_eq_of_bindDefaults_eq
    {nodes nodes' : List Node}
    {inside inside' : Scope → Scope}
    {next next' : List Node → Scope → Script}
    {parameters parameters' : List Attribute}
    {scope scope' : Scope}
    (same :
      bindDefaults parameters scope (fun inner => .expand nodes (inside inner) next) =
        bindDefaults parameters' scope' fun inner => .expand nodes' (inside' inner) next') :
    nodes = nodes' := by
  induction parameters generalizing parameters' scope scope' with
  | nil =>
      cases parameters' with
      | nil =>
          exact (Script.expand.inj same).1
      | cons =>
          cases same
  | cons parameter rest inductionHypothesis =>
      cases parameters' with
      | nil =>
          cases same
      | cons =>
          exact inductionHypothesis (congrFun (Script.interpolate.inj same).2.2 "")

/-- Two macros that act alike make the same of their content. -/
theorem UserMacro.replaceMarkers_eq_of_toRule_eq
    {definition definition' : UserMacro}
    (same : definition.toRule = definition'.toRule)
    (content : List Node) :
    Node.replaceMarkers definition.marker content definition.body =
      Node.replaceMarkers definition'.marker content definition'.body := by
  let sources : Sources := ⟨TextSource.none, TextSource.none, ';'⟩
  let call : MacroCall := ⟨"", [], content, "", .root⟩
  exact nodes_eq_of_bindDefaults_eq
    (congrArg (fun rule : MacroRule => rule.script sources call .empty) same)

/-- Where there is only logging, the macros that are defined stay as they are. -/
theorem Expansion.OnlyLogs.macros_eq
    {α : Type}
    {inner : Expansion α}
    {progress after : Progress}
    {value : α}
    (onlyLogs : OnlyLogs inner)
    (ran : inner progress = .ok value after) :
    after.macros = progress.macros := by
  obtain ⟨journal, rfl⟩ := onlyLogs.of_ok ran
  rfl

/-- An outcome that is changed without its macros succeeds with those of the outcome. -/
theorem Expansion.Outcome.macros_of_adapt
    {give : List Node × Scope → List Node × Scope}
    {restore : Progress → Progress}
    {outcome : Outcome}
    {value : List Node × Scope}
    {after : Progress}
    (succeeded : outcome.adapt give restore = .ok value after)
    (untouched : ∀ progress, (restore progress).macros = progress.macros) :
    ∃ value' before, outcome = .ok value' before ∧ before.macros = after.macros := by
  cases outcome with
  | ok value' before =>
      cases succeeded
      exact ⟨value', before, rfl, (untouched before).symm⟩
  | error problem before =>
      cases succeeded

namespace Interpreter

/-- Whether a node defines a macro under a name. -/
def Defines (interpreter : Interpreter) (node : Node) (name : String) : Prop :=
  Text.sameName node.name "macro" = true ∧
    ∃ raw, node.attribute? "alias" = some raw ∧ name ∈ interpreter.sources.items raw

/-- Whether a macro is one that a node among others defines under a name. -/
def IsWritten
    (interpreter : Interpreter)
    (originals : List Node)
    (name : String)
    (definition : UserMacro) :
    Prop :=
  ∃ node,
    Node.IsWithin originals node ∧ interpreter.Defines node name ∧
      node.definedMarker? = some definition.marker ∧ node.children = definition.body

/-- Whether calls of a name may put their content in place of markers, now or in the end: they
define a macro, import a template, or are calls of a macro that is defined. -/
def TakesContent (interpreter : Interpreter) (originals : List Node) (name : String) : Prop :=
  Declaration.lists ["macro", "import", "include"] name = true ∨
    ∃ node other,
      Node.IsWithin originals node ∧ interpreter.Defines node other ∧
        Text.sameName other name = true

/-- Whether a node may be a call that puts its content in place of markers. -/
structure MayTakeContent
    (interpreter : Interpreter)
    (originals : List Node)
    (node : Node) :
    Prop where
  isCall : node.isMacro = true ∨ interpreter.vocabulary.tag? node.name = none
  takesContent : interpreter.TakesContent originals node.name

/-- Whether nodes pass content on: a marker for it stands inside of a call that may put it in place
of markers again. -/
def PassesOn
    (interpreter : Interpreter)
    (originals : List Node)
    (marker : String)
    (nodes : List Node) :
    Prop :=
  ∃ call,
    Node.IsWithin nodes call ∧ interpreter.MayTakeContent originals call ∧
      call.isMarkerNamed marker = false ∧ Node.countMarkers marker call.children ≠ 0

/-- Whether content is put in place of markers in a moment: in the body of a macro whose call is let
in, or in a template that is read. -/
inductive Substitutes (interpreter : Interpreter) :
    Moment → String → List Node → List Node → Prop where
  | call {node scope progress call ready}
      {definition : UserMacro}
      (isCall : interpreter.isMacroCall progress node = true)
      (found : progress.macros.find? node.name = some definition.toRule)
      (shallow : progress.depth < interpreter.settings.maxDepth)
      (prepared :
        interpreter.prepareCall definition.toRule node scope
            (interpreter.macroPath progress.path node.name)
            { progress with path := interpreter.macroPath progress.path node.name } =
          .ok call ready) :
      Substitutes interpreter ⟨.node node scope, progress⟩ definition.marker node.children
        definition.body
  | insertion {rule template marker content scope next progress nodes ready}
      (loaded : interpreter.loadTemplate template progress = .ok nodes ready) :
      Substitutes interpreter
        ⟨.script rule (.insertTemplate template marker content scope next), progress⟩ marker content
        nodes

/-- Whether the nodes of a template are read after a moment, to put content in place of a marker. -/
def Reads
    (interpreter : Interpreter)
    (opening : Moment)
    (marker : String)
    (nodes : List Node) :
    Prop :=
  ∃ moment template content,
    interpreter.Reaches opening moment ∧ moment.Attempts template marker content ∧
      interpreter.Loads template nodes

/-- Whether an expansion passes no content on: no body of a macro that is written does, and no
template that is read. -/
structure KeepsContent
    (interpreter : Interpreter)
    (opening : Moment)
    (originals : List Node) :
    Prop where
  bodies :
    ∀ node marker,
      Node.IsWithin originals node → node.definedMarker? = some marker →
        ¬interpreter.PassesOn originals marker node.children
  templates :
    ∀ marker nodes,
      interpreter.Reads opening marker nodes → ¬interpreter.PassesOn originals marker nodes

/-- Whether calls that may take content stand in nodes as they are written. -/
def AreFaithful (interpreter : Interpreter) (originals nodes : List Node) : Prop :=
  ∀ node, Node.IsWithin nodes node → interpreter.MayTakeContent originals node →
    Node.IsWithin originals node

variable {interpreter : Interpreter} {originals nodes : List Node}

namespace AreFaithful

theorem of_subset
    {some : List Node}
    (faithful : interpreter.AreFaithful originals nodes)
    (subset : some ⊆ nodes) :
    interpreter.AreFaithful originals some :=
  fun node isWithin => faithful node (isWithin.mono fun _ listed => subset listed)

theorem ofPart
    (arePart : ArePart originals nodes) :
    interpreter.AreFaithful originals nodes :=
  fun node isWithin _ => arePart.isWithin node isWithin

/-- Where content is not passed on, calls that may take content are still as they are written when
other content is in place. -/
theorem replaceMarkers
    {marker : String}
    {content : List Node}
    (arePart : ArePart originals nodes)
    (contents : interpreter.AreFaithful originals content)
    (keeps : ¬interpreter.PassesOn originals marker nodes) :
    interpreter.AreFaithful originals (Node.replaceMarkers marker content nodes) := by
  intro node isWithin mayTake
  rcases isWithin.of_replaceMarkers with ⟨own, isOwn, isMarker, rfl⟩ | isContent
  · have ownMayTake : interpreter.MayTakeContent originals own := by
      obtain ⟨isCall, takesContent⟩ := mayTake
      rw [Node.isMacro_replaceInside, Node.name_replaceInside] at isCall
      rw [Node.name_replaceInside] at takesContent
      exact ⟨isCall, takesContent⟩
    have noMarkers : Node.countInside marker own = 0 := by
      by_contra someMarkers
      cases own
      exact keeps ⟨_, isOwn, ownMayTake, isMarker, someMarkers⟩
    rw [Node.replaceInside_eq_self marker content own noMarkers]
    exact arePart.isWithin own isOwn
  · exact contents node isContent mayTake

end AreFaithful

/-- Whether macros that are defined are written among nodes. -/
def AreWritten
    (interpreter : Interpreter)
    (originals : List Node)
    (macros : NameTable MacroRule) :
    Prop :=
  ∀ name rule, macros.find? name = some rule →
    ∃ other definition,
      Text.sameName other name = true ∧ UserMacro.toRule definition = rule ∧
        interpreter.IsWritten originals other definition

theorem AreWritten.insert
    {macros : NameTable MacroRule}
    (areWritten : interpreter.AreWritten originals macros)
    {name : String}
    {definition : UserMacro}
    (isWritten : interpreter.IsWritten originals name definition) :
    interpreter.AreWritten originals (macros.insert name definition.toRule) := by
  intro other rule found
  rw [NameTable.find?_insert] at found
  split at found
  · rename_i same
    cases found
    exact ⟨name, definition, same, rfl, isWritten⟩
  · exact areWritten other rule found

/-- What the scripts of an expansion that passes no content on may do with nodes. -/
def faithfulUses (interpreter : Interpreter) (originals : List Node) : NodeUses where
  expands := interpreter.AreFaithful originals
  inserts := ArePart originals
  defines := interpreter.IsWritten originals

/-- Whether a task has to do only with calls that may take content as they are written. -/
def IsFaithful (interpreter : Interpreter) (originals : List Node) : Task → Prop
  | .forest nodes _ => interpreter.AreFaithful originals nodes
  | .node node _ => interpreter.AreFaithful originals [node]
  | .script _ script => script.Handles (interpreter.faithfulUses originals)

/-- A step of a script without any nodes defines only macros that are written. -/
theorem areWritten_of_step
    {script next : Script}
    {inner : Expansion Script}
    {progress between : Progress}
    (isStep : interpreter.step? script = some inner)
    (handles : script.Handles (interpreter.faithfulUses originals))
    (areWritten : interpreter.AreWritten originals progress.macros)
    (ran : inner progress = .ok next between) :
    next.Handles (interpreter.faithfulUses originals) ∧
      interpreter.AreWritten originals between.macros := by
  cases script <;> simp only [step?, Option.some.injEq, reduceCtorEq] at isStep <;> subst isStep
  case fail problem =>
    cases ran
  case interpolate raw scope next' =>
    obtain ⟨text, given, rfl⟩ := Expansion.map_eq_ok ran
    rw [(interpreter.onlyLogs_interpolate scope raw).macros_eq given]
    exact ⟨handles text, areWritten⟩
  case evaluate source scope next' =>
    obtain ⟨value, given, rfl⟩ := Expansion.map_eq_ok ran
    rw [(interpreter.onlyLogs_evaluate scope source).macros_eq given]
    exact ⟨handles value, areWritten⟩
  case invoke reference next' =>
    obtain ⟨answer, given, rfl⟩ := Expansion.map_eq_ok ran
    rw [(interpreter.onlyLogs_invoke reference).macros_eq given]
    exact ⟨handles answer, areWritten⟩
  case define name interpolates body next' =>
    obtain ⟨⟨definition, same, isWritten⟩, handles⟩ := handles
    cases ran
    rw [← same]
    exact ⟨handles, areWritten.insert isWritten⟩
  case addDefault tag entry next' =>
    cases ran
    exact ⟨handles, areWritten⟩
  case record level text next' =>
    cases ran
    exact ⟨handles, areWritten⟩

/-- A call that is prepared has the nodes of its tag, and its attributes as written if they are not
to be filled in. -/
theorem prepareCall_eq_ok
    {rule : MacroRule}
    {node : Node}
    {scope : Scope}
    {path : TagPath}
    {progress ready : Progress}
    {call : MacroCall}
    (prepared : interpreter.prepareCall rule node scope path progress = .ok call ready) :
    call.children = node.children ∧
      (rule.interpolates = false → call.attributes = node.attributes) := by
  unfold prepareCall at prepared
  split at prepared
  · rename_i interpolates
    obtain ⟨attributes, between, _, prepared⟩ := bind_eq_ok prepared
    cases prepared
    exact ⟨rfl, fun asWritten => by cases interpolates.symm.trans asWritten⟩
  · cases prepared
    exact ⟨rfl, fun _ => rfl⟩

/-- What is called is marked, or its name is that of no tag. -/
theorem isMacro_or_noTag_of_isMacroCall
    {progress : Progress}
    {node : Node}
    (isCall : interpreter.isMacroCall progress node = true) :
    node.isMacro = true ∨ interpreter.vocabulary.tag? node.name = none := by
  rw [isMacroCall, Bool.or_eq_true, Bool.and_eq_true, Option.isNone_iff_eq_none] at isCall
  exact isCall.imp_right And.left

/-- The script of a macro that is defined handles nodes as it may. -/
theorem handles_of_isWritten
    {opening : Moment}
    (keeps : interpreter.KeepsContent opening originals)
    {name : String}
    {definition : UserMacro}
    (isWritten : interpreter.IsWritten originals name definition)
    {call : MacroCall}
    (contents : interpreter.AreFaithful originals call.children)
    (scope : Scope) :
    (definition.toRule.script interpreter.sources call scope).Handles
      (interpreter.faithfulUses originals) := by
  obtain ⟨node, isWithin, _, marker, body⟩ := isWritten
  refine definition.handles_script interpreter.sources call ?_ scope
  rw [← body]
  exact .replaceMarkers isWithin.childrenArePart contents (keeps.bodies node _ isWithin marker)

/-- The script of a macro of the language handles nodes as it may. -/
theorem handles_of_macroRule?
    {node : Node}
    {rule : MacroRule}
    (known : Vocabulary.standard.macroRule? node.name = some rule)
    (faithful : interpreter.AreFaithful originals [node])
    (isCall : node.isMacro = true ∨ interpreter.vocabulary.tag? node.name = none)
    {call : MacroCall}
    (sameChildren : call.children = node.children)
    (asWritten : rule.interpolates = false → call.attributes = node.attributes)
    (scope : Scope) :
    (rule.script interpreter.sources call scope).Handles
      (interpreter.faithfulUses originals) := by
  obtain ⟨entry, listed, named, rfl⟩ := Vocabulary.exists_of_macroRule?_standard known
  have isOriginal (takes : Declaration.lists ["macro", "import", "include"] node.name = true) :
      Node.IsWithin originals node :=
    faithful node (.root (List.mem_singleton_self node)) ⟨isCall, .inl takes⟩
  have parts (nodes : List Node) (subset : nodes ⊆ call.children) :
      interpreter.AreFaithful originals nodes := by
    rw [sameChildren] at subset
    intro inner isWithin
    have isInside : Node.IsWithin node.children inner :=
      isWithin.mono fun _ listed => subset listed
    exact faithful inner (isInside.ofChildren (List.mem_singleton_self node))
  refine StandardMacro.handles_of_mem_all parts entry listed (fun isImport => ?_)
    (fun isDefinition raw given other items => ?_)
  · rw [isImport] at named
    rw [sameChildren]
    exact (isOriginal (Bool.or_eq_true_iff.2 (.inr named))).childrenArePart
  · obtain rfl := isDefinition
    have same : Text.sameName "macro" node.name = true := by
      simpa [Declaration.lists] using named
    have isMacro : Text.sameName node.name "macro" = true :=
      Text.sameName_iff.2 (Text.sameName_iff.1 same).symm
    have sameAttribute (name : String) : call.attribute? name = node.attribute? name :=
      congrArg (Attribute.lookup? name) (asWritten rfl)
    refine ⟨node, isOriginal (Bool.or_eq_true_iff.2 (.inl same)), ⟨isMacro, raw, ?_, items⟩, ?_,
      sameChildren.symm⟩
    · rw [← sameAttribute, given]
    · rw [Node.definedMarker?, if_pos isMacro, ← sameAttribute]
      rfl

/-- Whether a moment comes after an opening, with macros that are written and calls that may take
content as they are written. -/
structure IsTraced
    (interpreter : Interpreter)
    (opening : Moment)
    (originals : List Node)
    (moment : Moment) :
    Prop where
  reaches : interpreter.Reaches opening moment
  areWritten : interpreter.AreWritten originals moment.progress.macros
  isFaithful : interpreter.IsFaithful originals moment.task

/-- The call of a macro that is defined is as it is written. -/
theorem AreFaithful.isWithin_of_found
    {node : Node}
    (faithful : interpreter.AreFaithful originals [node])
    {progress : Progress}
    (isCall : interpreter.isMacroCall progress node = true)
    {other : String}
    {definition : UserMacro}
    (same : Text.sameName other node.name = true)
    (isWritten : interpreter.IsWritten originals other definition) :
    Node.IsWithin originals node := by
  obtain ⟨written, isWithin, defines, _⟩ := isWritten
  exact faithful node (.root (List.mem_singleton_self node))
    ⟨isMacro_or_noTag_of_isMacroCall isCall, .inr ⟨written, other, isWithin, defines, same⟩⟩

section Tracing

variable
  {opening : Moment}
  (standard : interpreter.vocabulary = .standard)
  (parts : ∀ marker nodes, interpreter.Reads opening marker nodes → ArePart originals nodes)
  (keeps : interpreter.KeepsContent opening originals)

include standard parts keeps

/-- From one moment to the next, calls that may take content stay as they are written. -/
theorem IsTraced.isFaithful_next
    {earlier later : Moment}
    (traced : interpreter.IsTraced opening originals earlier)
    (proceeds : interpreter.Proceeds earlier later) :
    interpreter.IsFaithful originals later.task := by
  obtain ⟨reaches, areWritten, faithful⟩ := traced
  cases proceeds with
  | visit | others =>
      exact faithful.of_subset (by simp)
  | @inside node =>
      intro inner isWithin
      exact faithful inner (isWithin.ofChildren (List.mem_singleton_self node))
  | @call node _ progress rule call _ isCall found _ prepared =>
      obtain ⟨sameChildren, asWritten⟩ := prepareCall_eq_ok prepared
      rw [findMacro?] at found
      cases defined : progress.macros.find? node.name with
      | some own =>
          rw [defined] at found
          cases found
          obtain ⟨other, definition, same, rfl, isWritten⟩ := areWritten _ _ defined
          have isWithin := AreFaithful.isWithin_of_found faithful isCall same isWritten
          refine handles_of_isWritten keeps isWritten ?_ _
          rw [sameChildren]
          exact .ofPart isWithin.childrenArePart
      | none =>
          rw [defined, standard] at found
          exact handles_of_macroRule? found faithful (isMacro_or_noTag_of_isMacroCall isCall)
            sameChildren asWritten _
  | iteration =>
      exact faithful
  | step isStep ran =>
      exact (areWritten_of_step isStep faithful areWritten ran).1
  | pass =>
      exact faithful.1
  | afterPass =>
      exact faithful.2 _ _
  | afterInsertion =>
      exact faithful.2 _
  | @insertion _ template marker content _ _ _ nodes _ loaded =>
      have reads : interpreter.Reads opening marker nodes :=
        ⟨_, template, content, reaches, ⟨_, _, _, rfl⟩, (loadTemplate_eq_ok loaded).2.1⟩
      exact .replaceMarkers (parts marker nodes reads) (.ofPart faithful.1)
        (keeps.templates marker nodes reads)

/-- From one moment to the next, what is traced stays so if the macros do. -/
theorem IsTraced.next
    {earlier later : Moment}
    (traced : interpreter.IsTraced opening originals earlier)
    (proceeds : interpreter.Proceeds earlier later)
    (areWritten : interpreter.AreWritten originals later.progress.macros) :
    interpreter.IsTraced opening originals later :=
  ⟨traced.reaches.tail proceeds, areWritten, traced.isFaithful_next standard parts keeps proceeds⟩

/-- A task whose moment is traced defines only macros that are written. -/
theorem Expands.areWritten
    {active : Nat}
    {task : Task}
    {progress after : Progress}
    {events : List Event}
    {outcome : Outcome}
    {value : List Node × Scope}
    (expands : interpreter.Expands active task progress events outcome)
    (traced : interpreter.IsTraced opening originals ⟨task, progress⟩)
    (succeeded : outcome = .ok value after) :
    interpreter.AreWritten originals after.macros := by
  have next {earlier later : Moment} :=
    @IsTraced.next interpreter originals opening standard parts keeps earlier later
  induction expands generalizing value after with
  | nothing | finished =>
      cases succeeded
      exact traced.areWritten
  | unpaid | stopped | unfilled | unknown | refused | unprepared | unpaidIteration | failedStep
  | failedPass | unloaded | failedInsertion =>
      cases succeeded
  | visited charged firstRun _ first others =>
      obtain ⟨_, paid⟩ := charge_eq_ok charged
      have visit := next traced (.visit charged) (paid ▸ traced.areWritten)
      have rest := next traced (.others charged firstRun.perform_eq) (first visit rfl)
      obtain ⟨_, _, succeeded, same⟩ := Outcome.macros_of_adapt succeeded fun _ => rfl
      exact same ▸ others rest succeeded
  | tag isTag prepared _ children =>
      have sameMacros := (onlyLogs_prepareTag _ _).macros_eq prepared
      have inside := next traced (.inside isTag prepared) (sameMacros ▸ traced.areWritten)
      obtain ⟨_, _, succeeded, same⟩ := Outcome.macros_of_adapt succeeded fun _ => rfl
      exact same ▸ children inside succeeded
  | called isCall found shallow prepared _ body =>
      have sameMacros := (onlyLogs_prepareCall _ _ _ _).macros_eq prepared
      have inside :=
        next traced (.call isCall found shallow prepared) (sameMacros ▸ traced.areWritten)
      obtain ⟨_, _, succeeded, same⟩ := Outcome.macros_of_adapt succeeded fun _ => rfl
      exact same ▸ body inside succeeded
  | iteration charged _ rest =>
      obtain ⟨_, paid⟩ := charge_eq_ok charged
      exact rest (next traced (.iteration charged) (paid ▸ traced.areWritten)) succeeded
  | step isStep ran _ rest =>
      have areWritten := (areWritten_of_step isStep traced.isFaithful traced.areWritten ran).2
      exact rest (next traced (.step isStep ran) areWritten) succeeded
  | pass passRun _ pass rest =>
      have passed := pass (next traced .pass traced.areWritten) rfl
      exact rest (next traced (.afterPass passRun.perform_eq) passed) succeeded
  | insertion loaded passRun _ pass rest =>
      obtain ⟨_, _, rfl⟩ := loadTemplate_eq_ok loaded
      have passed := pass (next traced (.insertion loaded) traced.areWritten) rfl
      exact rest (next traced (.afterInsertion loaded passRun.perform_eq) passed) succeeded

/-- The macros that are defined in the next moment are written, too. -/
theorem IsTraced.areWritten_next
    {earlier later : Moment}
    (traced : interpreter.IsTraced opening originals earlier)
    (proceeds : interpreter.Proceeds earlier later) :
    interpreter.AreWritten originals later.progress.macros := by
  have next {earlier later : Moment} :=
    @IsTraced.next interpreter originals opening standard parts keeps earlier later
  have passed {task : Task} {progress after : Progress} {value : List Node × Scope}
      (traced : interpreter.IsTraced opening originals ⟨task, progress⟩)
      (succeeded : interpreter.perform task progress = .ok value after) :
      interpreter.AreWritten originals after.macros := by
    obtain ⟨_, expands⟩ := exists_expands task succeeded 0
    exact expands.areWritten standard parts keeps traced rfl
  cases proceeds with
  | visit charged | iteration charged =>
      obtain ⟨_, rfl⟩ := charge_eq_ok charged
      exact traced.areWritten
  | others charged first =>
      obtain ⟨_, paid⟩ := charge_eq_ok charged
      have visit := next traced (.visit charged) (paid ▸ traced.areWritten)
      exact @passed (.node _ _) _ _ _ visit first
  | inside isTag prepared =>
      exact (onlyLogs_prepareTag _ _).macros_eq prepared ▸ traced.areWritten
  | call isCall found shallow prepared =>
      exact (onlyLogs_prepareCall _ _ _ _).macros_eq prepared ▸ traced.areWritten
  | step isStep ran =>
      exact (areWritten_of_step isStep traced.isFaithful traced.areWritten ran).2
  | pass =>
      exact traced.areWritten
  | afterPass expanded =>
      exact @passed (.forest _ _) _ _ _ (next traced .pass traced.areWritten) expanded
  | insertion loaded =>
      obtain ⟨_, _, rfl⟩ := loadTemplate_eq_ok loaded
      exact traced.areWritten
  | afterInsertion loaded expanded =>
      obtain ⟨_, _, rfl⟩ := loadTemplate_eq_ok loaded
      have insertion := next traced (.insertion loaded) traced.areWritten
      have areWritten := @passed (.forest _ _) _ _ _ insertion expanded
      exact areWritten

/-- All that comes after an opening that is traced is. -/
theorem IsTraced.of_reaches
    {moment : Moment}
    (traced : interpreter.IsTraced opening originals opening)
    (reaches : interpreter.Reaches opening moment) :
    interpreter.IsTraced opening originals moment := by
  induction reaches with
  | refl =>
      exact traced
  | tail _ proceeds inductionHypothesis =>
      exact inductionHypothesis.next standard parts keeps proceeds
        (inductionHypothesis.areWritten_next standard parts keeps proceeds)

end Tracing

/-- What is put together is made of nodes that are no more than the originals. -/
theorem IsTraced.sizes_of_substitutes
    {opening moment : Moment}
    (parts : ∀ marker nodes, interpreter.Reads opening marker nodes → ArePart originals nodes)
    (traced : interpreter.IsTraced opening originals moment)
    {marker : String}
    {content body : List Node}
    (substitutes : interpreter.Substitutes moment marker content body) :
    Node.sizeAll (Node.replaceMarkers marker [] body) ≤ Node.sizeAll originals ∧
      Node.sizeAll content ≤ Node.sizeAll originals := by
  cases substitutes with
  | call isCall found _ _ =>
      obtain ⟨other, definition, same, sameRule, isWritten⟩ := traced.areWritten _ _ found
      have isWithin := AreFaithful.isWithin_of_found traced.isFaithful isCall same isWritten
      obtain ⟨node, nodeIsWithin, _, _, isBody⟩ := isWritten
      rw [← UserMacro.replaceMarkers_eq_of_toRule_eq sameRule, ← isBody]
      exact ⟨(Node.sizeAll_replaceMarkers_le _ _).trans nodeIsWithin.childrenArePart.size,
        isWithin.childrenArePart.size⟩
  | insertion loaded =>
      have reads : interpreter.Reads opening marker body :=
        ⟨_, _, content, traced.reaches, ⟨_, _, _, rfl⟩, (loadTemplate_eq_ok loaded).2.1⟩
      exact ⟨(Node.sizeAll_replaceMarkers_le _ _).trans (parts marker body reads).size,
        traced.isFaithful.1.size⟩

/--
How large nodes get where content is put in place of markers. In an expansion whose bodies and
templates pass no content on, every body and template with content in it has at most as many nodes
as the document and all templates that are read, once for itself and once for each marker. With no
more markers than work may be charged, that is the total size of the sources for each unit of work
and once more.
-/
theorem sizeAll_substituted_le
    (standard : interpreter.vocabulary = .standard)
    {imports : List String}
    {read : List (List Node)}
    (isRead :
      ∀ marker template,
        interpreter.Reads ⟨.forest nodes .empty, interpreter.beginning imports⟩ marker template →
          template ∈ read)
    (keeps :
      interpreter.KeepsContent ⟨.forest nodes .empty, interpreter.beginning imports⟩
        (nodes ++ read.flatten))
    {moment : Moment}
    (reaches :
      interpreter.Reaches ⟨.forest nodes .empty, interpreter.beginning imports⟩ moment)
    {marker : String}
    {content body : List Node}
    (substitutes : interpreter.Substitutes moment marker content body) :
    let total := Node.sizeAll (nodes ++ read.flatten)
    let size := Node.sizeAll (Node.replaceMarkers marker content body)
    let limit := interpreter.settings.maxExpansions
    size ≤ total * (Node.countMarkers marker body + 1) ∧
      (Node.countMarkers marker body ≤ limit → size ≤ total * (limit + 1)) := by
  intro total size limit
  have parts (marker : String) (template : List Node)
      (reads :
        interpreter.Reads ⟨.forest nodes .empty, interpreter.beginning imports⟩ marker template) :
      ArePart (nodes ++ read.flatten) template :=
    Node.arePart_of_mem (isRead marker template reads)
  have opened :
      interpreter.IsTraced ⟨.forest nodes .empty, interpreter.beginning imports⟩
        (nodes ++ read.flatten) ⟨.forest nodes .empty, interpreter.beginning imports⟩ :=
    ⟨.refl, nofun, fun node isWithin _ => isWithin.mono fun _ => List.mem_append_left _⟩
  have traced := opened.of_reaches standard parts keeps reaches
  obtain ⟨own, passed⟩ := traced.sizes_of_substitutes parts substitutes
  have bounded : size ≤ total * (Node.countMarkers marker body + 1) := by
    calc
      size = Node.sizeAll (Node.replaceMarkers marker [] body) +
          Node.countMarkers marker body * Node.sizeAll content :=
        Node.sizeAll_replaceMarkers marker content body
      _ ≤ total + Node.countMarkers marker body * total :=
        Nat.add_le_add own (Nat.mul_le_mul_left _ passed)
      _ = total * (Node.countMarkers marker body + 1) := by
        rw [Nat.mul_comm, Nat.mul_succ, Nat.add_comm]
  exact ⟨bounded, fun fits => bounded.trans (Nat.mul_le_mul_left _ (Nat.succ_le_succ fits))⟩

/-- A group with the content of a call in it twice. -/
def pairBody : List Node :=
  [{ name := "group"
     children := [.call "content" [] ⟨1, 31⟩, .call "content" [] ⟨1, 42⟩]
     position := ⟨1, 24⟩ }]

/-- A call that makes a pair of a label. -/
def pairCall : Node :=
  .call "pair" [{ name := "label", position := ⟨1, 78⟩ }] ⟨1, 71⟩

/-- The definition of a macro that makes pairs, and a call of it. -/
def pairing : List Node :=
  [.definition "pair" pairBody ⟨1, 1⟩, pairCall]

/-- In pairs, content stands in a tag, and no call takes it further. -/
theorem keepsContent_pairing
    (opening : Moment) :
    ({ vocabulary := .standard } : Interpreter).KeepsContent opening pairing where
  bodies node marker isWithin defines := by
    rintro ⟨call, isInside, ⟨isCall, _⟩, _, someMarkers⟩
    let isSpared (node : Node) : Bool :=
      !node.isMacro && (Vocabulary.standard.tag? node.name).isSome || node.children.isEmpty
    have below : (pairing.flatMap Node.children).all isSpared = true := by
      decide +kernel
    have lowest :
        ((pairing.flatMap Node.children).flatMap Node.children).all isSpared = true := by
      decide +kernel
    have isBelow : Node.IsWithin (pairing.flatMap Node.children) call := by
      rcases isWithin.root_or_inside with listed | isWithin
      · exact isInside.mono fun _ inside => List.mem_flatMap.2 ⟨node, listed, inside⟩
      · exact isWithin.deeper isInside
    have spared : isSpared call = true := by
      rcases isBelow.root_or_inside with listed | isLower
      · exact List.all_eq_true.1 below call listed
      rcases isLower.root_or_inside with listed | isWithin
      · exact List.all_eq_true.1 lowest call listed
      · exact absurd isWithin Node.IsWithin.not_nil
    rcases Bool.or_eq_true_iff.1 spared with isTag | isEmpty
    · obtain ⟨unmarked, known⟩ := Bool.and_eq_true_iff.1 isTag
      rcases isCall with marked | unknown
      · rw [marked] at unmarked
        cases unmarked
      · change Vocabulary.standard.tag? call.name = none at unknown
        rw [unknown] at known
        cases known
    · rw [List.isEmpty_iff.1 isEmpty] at someMarkers
      exact someMarkers rfl
  templates marker template := by
    rintro ⟨_, _, _, _, _, _, ⟨⟩, _⟩

/-- A call that makes a pair puts no more nodes together than the document may have. -/
theorem sizeAll_substituted_le_pair :
    let interpreter : Interpreter := { vocabulary := .standard }
    let size := Node.sizeAll (Node.replaceMarkers "content" pairCall.children pairBody)
    ∃ moment,
      interpreter.KeepsContent ⟨.forest pairing .empty, interpreter.beginning []⟩ pairing ∧
        interpreter.Reaches ⟨.forest pairing .empty, interpreter.beginning []⟩ moment ∧
        interpreter.Substitutes moment "content" pairCall.children pairBody ∧
        size ≤ Node.sizeAll pairing * (interpreter.settings.maxExpansions + 1) := by
  intro interpreter size
  have keeps :=
    keepsContent_pairing ⟨.forest pairing .empty, interpreter.beginning []⟩
  obtain ⟨between, reaches, found, outermost, _⟩ :=
    @reaches_call_of_definition interpreter "pair" rfl (by decide +kernel) pairBody ⟨1, 1⟩
      pairCall .empty (interpreter.beginning []) rfl (by decide) (by decide)
  have shallow : between.depth < interpreter.settings.maxDepth := by
    rw [outermost]
    decide
  have substitutes :=
    @Substitutes.call interpreter pairCall .empty between _ _ ⟨"content", [], pairBody⟩ rfl found
      shallow rfl
  have bounded :=
    @sizeAll_substituted_le interpreter pairing rfl [] [] (fun _ _ reads => by
      obtain ⟨_, _, _, _, _, _, ⟨⟩, _⟩ := reads) keeps _ reaches _ _ _ substitutes
  exact ⟨_, keeps, reaches, substitutes, bounded.2 (by decide +kernel)⟩

end Interpreter

end WidgetMarkup
