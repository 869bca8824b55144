import WidgetMarkup.Proofs.Construction.Leads
import WidgetMarkup.Proofs.Markup.Substitution
import WidgetMarkup.Proofs.Vocabulary.PlainRules
import WidgetMarkup.Run

namespace WidgetMarkup

open Markup

/-!
# How building fails

A document that is built from nodes may be refused for many reasons, and it fails for nothing else:
limits, templates and placeholders are the expansion's own. Only a macro tag that is left over is
not refused for what it is, but because nothing expands it any more.
-/

namespace Run

variable {α γ : Type} {view : LocatedProblem → γ}

/-- What is seen of the problem of a run that fails. -/
def seenProblem? (view : LocatedProblem → γ) (run : Run α) : Option γ :=
  match run.result with
  | .ok _ => none
  | .error problem => some (view problem)

/-- A run of whose problem something is seen fails. -/
theorem exists_error_of_seenProblem
    {run : Run α}
    {seen : γ}
    (isSeen : run.seenProblem? view = some seen) :
    ∃ problem, run.result = .error problem ∧ view problem = seen := by
  unfold seenProblem? at isSeen
  split at isSeen
  · cases isSeen
  · rename_i problem failed
    exact ⟨problem, failed, Option.some.inj isSeen⟩

end Run

/-- Whether a problem is a refusal, or else that a marked node of a forest is left over. -/
def LocatedProblem.IsPlain (nodes : List Node) (problem : LocatedProblem) : Prop :=
  problem.problem.isRefusal = true ∨
    ∃ node,
      Node.IsWithin nodes node ∧ node.isMacro = true ∧ problem.problem = .unknownMacro node.name

namespace LocatedProblem.IsPlain

variable {nodes : List Node} {problem : LocatedProblem}

/-- What fails plainly does not halt the engine. -/
theorem isHalt
    (isPlain : problem.IsPlain nodes) :
    problem.problem.isHalt = false := by
  rcases isPlain with isRefusal | ⟨node, _, _, same⟩
  · exact Problem.isHalt_of_isRefusal isRefusal
  · rw [same]
    rfl

/-- Without marked nodes, no macro is left over. -/
theorem ne_unknownMacro
    (isPlain : problem.IsPlain nodes)
    (unmarked : ∀ node, Node.IsWithin nodes node → node.isMacro = false)
    (name : String) :
    problem.problem ≠ .unknownMacro name := by
  rcases isPlain with isRefusal | ⟨node, isWithin, isMacro, _⟩
  · intro same
    rw [same] at isRefusal
    cases isRefusal
  · cases isMacro.symm.trans (unmarked node isWithin)

end LocatedProblem.IsPlain

namespace Work

/-- Whether a step fails only with refusals, for tags whose rule does, which they keep. -/
def IsPlain {α : Type} (step : Work α) : Prop :=
  EndsIn (fun problem => problem.problem.isRefusal = true)
    (fun bench => bench.assembly.rule.IsPlain) step fun _ bench => bench.assembly.rule.IsPlain

variable {α β : Type}

namespace IsPlain

theorem pure
    (value : α) :
    IsPlain (Pure.pure value) :=
  EndsIn.pure fun _ isPlain => isPlain

theorem bind
    {step : Work α}
    {next : α → Work β}
    (first : step.IsPlain)
    (nexts : ∀ value, (next value).IsPlain) :
    IsPlain (step >>= next) :=
  EndsIn.bind first nexts

theorem get_bind
    {next : Bench → Work α}
    (nexts : ∀ bench, bench.assembly.rule.IsPlain → (next bench).IsPlain) :
    IsPlain (get >>= next) :=
  EndsIn.get_bind nexts

theorem record
    (level : LogLevel)
    (text : String) :
    IsPlain (Work.record level text) :=
  fun _ isPlain => isPlain

theorem change
    {change : Assembly → Assembly}
    (keeps : ∀ assembly, (change assembly).rule = assembly.rule) :
    IsPlain (Work.change change) := by
  intro bench isPlain
  show (change bench.assembly).rule.IsPlain
  rw [keeps]
  exact isPlain

theorem fail
    {problem : Problem}
    (refuses : problem.isRefusal = true) :
    IsPlain (Work.fail problem : Work α) :=
  fun _ _ => refuses

theorem logged
    {inner : Logged α}
    (isPlain : inner.IsPlain) :
    IsPlain (Work.logged inner) := by
  intro bench isBefore
  have ends := isPlain bench.journal trivial
  unfold Work.logged
  cases ran : inner bench.journal with
  | ok value journal =>
      exact isBefore
  | error problem journal =>
      rw [ran] at ends
      exact ends

theorem onAttribute
    {step : Work α}
    (isPlain : step.IsPlain)
    (name : String) :
    IsPlain (Work.onAttribute name step) := by
  intro bench isBefore
  have ends := isPlain bench isBefore
  unfold Work.onAttribute
  cases ran : step bench with
  | ok value after =>
      rw [ran] at ends
      exact ends
  | error problem after =>
      rw [ran] at ends
      exact ends

theorem requireTarget :
    IsPlain Work.requireTarget := by
  refine .get_bind fun bench _ => ?_
  split
  · exact .pure _
  · exact .fail rfl

end IsPlain

end Work

namespace Assembly

open Work (IsPlain)

theorem isPlain_fillBlueprint
    (entries : List (BuildingRule × Attribute))
    (refuses :
      ∀ entry ∈ entries, ∀ raw blueprint problem,
        entry.1.apply raw blueprint = .error problem → problem.isRefusal = true) :
    (fillBlueprint entries).IsPlain := by
  induction entries with
  | nil =>
      exact .change fun _ => rfl
  | cons first rest inductionHypothesis =>
      have firstPlain := refuses first (List.mem_cons_self ..)
      have restPlain := inductionHypothesis fun entry member => refuses entry (.tail _ member)
      refine .get_bind fun bench _ => (IsPlain.record _ _).bind fun _ => ?_
      refine ((IsPlain.logged (Logged.isPlain_ofExcept (firstPlain _ _))).onAttribute _).bind
        fun blueprint => ?_
      exact .bind (.change fun _ => rfl) fun _ => restPlain

theorem isPlain_instantiate :
    instantiate.IsPlain :=
  .get_bind fun _ isPlain => (IsPlain.logged (isPlain.create _)).bind fun _ => .change fun _ => rfl

theorem isPlain_applyAttribute
    {interpreter : Interpreter}
    (standard : interpreter.vocabulary = .standard)
    (entry : Attribute) :
    (applyAttribute interpreter entry).IsPlain := by
  refine IsPlain.requireTarget.bind fun target => .get_bind fun bench _ => ?_
  dsimp only
  split
  · rename_i rule found
    rw [standard] at found
    have rulePlain := Vocabulary.isPlain_of_resolve_standard found
    refine (IsPlain.record _ _).bind fun _ => ?_
    refine ((IsPlain.logged (rulePlain _ _ _)).onAttribute _).bind fun _ => ?_
    exact .change fun _ => rfl
  · exact (IsPlain.fail rfl).onAttribute _
  · split
    · exact (IsPlain.fail rfl).onAttribute _
    · exact .record _ _

theorem isPlain_applyAttributes
    {interpreter : Interpreter}
    (standard : interpreter.vocabulary = .standard)
    (entries : List Attribute) :
    (applyAttributes interpreter entries).IsPlain := by
  induction entries with
  | nil =>
      exact .pure _
  | cons first rest inductionHypothesis =>
      exact (isPlain_applyAttribute standard first).bind fun _ => inductionHypothesis

theorem isPlain_writeCell
    (entries : List (CellRule × Attribute))
    (refuses :
      ∀ entry ∈ entries, ∀ raw cell problem,
        entry.1.apply raw cell = .error problem → problem.isRefusal = true)
    (cell : CellProperties) :
    (writeCell cell entries).IsPlain := by
  induction entries generalizing cell with
  | nil =>
      exact .pure _
  | cons first rest inductionHypothesis =>
      have firstPlain := refuses first (List.mem_cons_self ..)
      refine ((IsPlain.logged (Logged.isPlain_ofExcept (firstPlain _ _))).onAttribute _).bind ?_
      exact inductionHypothesis fun entry member => refuses entry (.tail _ member)

theorem isPlain_takeText
    (text : String) :
    (takeText text).IsPlain := by
  refine IsPlain.requireTarget.bind fun target => .get_bind fun bench isPlain => ?_
  exact (IsPlain.logged (isPlain.takeText _ _ _)).bind fun _ => .change fun _ => rfl

theorem isPlain_settle
    (cells : Option CellProperties)
    (entries : List (CellRule × Attribute))
    (refuses :
      ∀ entry ∈ entries, ∀ raw cell problem,
        entry.1.apply raw cell = .error problem → problem.isRefusal = true)
    (text : String) :
    (settle cells entries text).IsPlain := by
  have inside : (if !Text.isBlankText text then takeText text else pure ()).IsPlain := by
    split
    · exact isPlain_takeText text
    · exact .pure _
  unfold settle
  cases cells with
  | none =>
      exact inside
  | some defaults =>
      refine IsPlain.bind ?_ fun _ => inside
      exact (isPlain_writeCell entries refuses defaults).bind fun _ => .change fun _ => rfl

theorem isPlain_attach
    (child : ClosedTag) :
    (attach child).IsPlain := by
  refine IsPlain.requireTarget.bind fun target => .get_bind fun bench isPlain => ?_
  refine (IsPlain.logged ?_).bind fun _ => .change fun _ => rfl
  cases child.target with
  | widget widget =>
      exact isPlain.takeWidget _ _ _
  | listener listener =>
      refine Logged.isPlain_ofExcept fun problem failed => ?_
      cases target <;> cases failed
      rfl

end Assembly

/-- Every attribute of a tag that goes into its blueprint or its cell goes there by a rule of the
vocabulary. -/
theorem SplitAttributes.exists_of_mem
    (vocabulary : Vocabulary)
    (features : List Feature)
    (inTable : Bool)
    (attributes : List Attribute) :
    (∀ entry ∈ (ofAttributes vocabulary features inTable attributes).building,
      ∃ name, vocabulary.building? name features = some entry.1) ∧
    ∀ entry ∈ (ofAttributes vocabulary features inTable attributes).cell,
      ∃ name, vocabulary.cell? name = some entry.1 := by
  induction attributes with
  | nil =>
      exact ⟨nofun, nofun⟩
  | cons first rest inductionHypothesis =>
      rw [ofAttributes]
      split
      · rename_i rule found
        refine ⟨fun entry member => ?_, inductionHypothesis.2⟩
        rcases List.mem_cons.1 member with rfl | member
        · exact ⟨_, found⟩
        · exact inductionHypothesis.1 entry member
      · split
        · rename_i rule found
          refine ⟨inductionHypothesis.1, fun entry member => ?_⟩
          rcases List.mem_cons.1 member with rfl | member
          · rw [Option.ite_none_right_eq_some] at found
            exact ⟨_, found.2⟩
          · exact inductionHypothesis.2 entry member
        · exact inductionHypothesis

namespace Registration

/-- Whether a part of a run with a forest fails only plainly, and what holds of the values that it
gives. -/
def IsPlain {α : Type} (roots : List Node) (part : Registration α) (after : α → Prop) : Prop :=
  EndsIn (LocatedProblem.IsPlain roots) (fun _ => True) part fun value _ => after value

variable {α β : Type} {roots : List Node} {after : α → Prop}

namespace IsPlain

theorem pure
    {value : α}
    (holds : after value) :
    IsPlain roots (Pure.pure value) after :=
  EndsIn.pure fun _ _ => holds

theorem bind
    {part : Registration α}
    {next : α → Registration β}
    {final : β → Prop}
    (first : part.IsPlain roots after)
    (nexts : ∀ value, after value → (next value).IsPlain roots final) :
    IsPlain roots (part >>= next) final :=
  EndsIn.bind first fun value register isAfter => nexts value isAfter register trivial

theorem fail
    {problem : Problem}
    (path : TagPath)
    (refuses : problem.isRefusal = true) :
    IsPlain roots (Registration.fail path problem) after :=
  fun _ _ => .inl refuses

theorem record
    (level : LogLevel)
    (text : String) :
    IsPlain roots (Registration.record level text) fun _ => True :=
  fun _ _ => trivial

theorem logged
    {inner : Logged α}
    (path : TagPath)
    (isPlain : inner.IsPlain) :
    IsPlain roots (Registration.logged path inner) fun _ => True := by
  intro register _
  have ends := isPlain register.journal trivial
  unfold Registration.logged
  cases ran : inner register.journal with
  | ok value journal =>
      trivial
  | error problem journal =>
      rw [ran] at ends
      exact .inl ends

theorem work
    {assembly : Assembly}
    {step : Work Unit}
    (isPlain : step.IsPlain)
    (rulePlain : assembly.rule.IsPlain) :
    IsPlain roots (Registration.work assembly step) fun worked => worked.rule.IsPlain := by
  intro register _
  have ends := isPlain ⟨assembly, register.journal⟩ rulePlain
  unfold Registration.work
  cases ran : step ⟨assembly, register.journal⟩ with
  | ok value bench =>
      rw [ran] at ends
      exact ends
  | error problem bench =>
      rw [ran] at ends
      exact .inl ends

end IsPlain

end Registration

namespace Assembly

open Registration (IsPlain)

variable {roots : List Node}

theorem isPlain_runOnClose
    (path : TagPath)
    (actions : Actions)
    (references : List String)
    (widget : Widget) :
    (runOnClose path actions widget references).IsPlain roots fun _ => True := by
  induction references generalizing widget with
  | nil =>
      exact .pure trivial
  | cons first rest inductionHypothesis =>
      exact (IsPlain.logged path (actions.isPlain_invokeOn first widget)).bind fun answer _ =>
        inductionHypothesis answer.1

theorem isPlain_registerId
    (path : TagPath)
    (widget : Widget) :
    (registerId path widget).IsPlain roots fun _ => True := by
  unfold registerId
  split
  · exact .pure trivial
  · refine EndsIn.get_bind fun register _ => ?_
    split
    · exact IsPlain.fail path rfl
    · exact fun _ _ => trivial

theorem isPlain_checkListener
    (path : TagPath)
    (openIds : List String)
    (actions : Actions)
    (listener : Listener) :
    (checkListener path openIds actions listener).IsPlain roots fun _ => True := by
  unfold checkListener
  split
  · exact .fail path rfl
  · refine (IsPlain.logged path (actions.isPlain_resolve _)).bind fun action _ => ?_
    refine EndsIn.get_bind fun register _ => ?_
    split
    · exact IsPlain.fail path rfl
    · exact IsPlain.pure trivial

theorem isPlain_close
    (assembly : Assembly)
    (openIds : List String)
    (actions : Actions) :
    (assembly.close openIds actions).IsPlain roots fun _ => True := by
  have noted (target : Target) :
      IsPlain roots
        (do
          Registration.record .debug ("close " ++ assembly.path.render)
          return { target, cell := assembly.cell })
        fun _ : ClosedTag => True :=
    .bind (.record _ _) fun _ _ => .pure trivial
  unfold close
  dsimp only
  split
  · exact .fail assembly.path rfl
  · refine (isPlain_registerId _ _).bind fun _ _ => ?_
    exact (isPlain_runOnClose _ _ _ _).bind fun changed _ => noted (.widget changed)
  · exact (isPlain_checkListener _ _ _ _).bind fun checked _ => noted (.listener checked)

end Assembly

namespace Interpreter

open Registration (IsPlain)

variable {interpreter : Interpreter} {roots : List Node}

theorem isPlain_admitTag
    (standard : interpreter.vocabulary = .standard)
    (path : TagPath)
    {node : Node}
    (isWithin : Node.IsWithin roots node) :
    (interpreter.admitTag path node).IsPlain roots fun admitted =>
      ∀ rule, admitted = some rule → rule.IsPlain := by
  unfold admitTag
  split
  · rename_i isMacro
    exact fun _ _ => .inr ⟨node, isWithin, isMacro, rfl⟩
  · split
    · rename_i rule found
      rw [standard] at found
      have rulePlain := (Vocabulary.hasStandardRules_standard.tags _ _ found).isPlain
      exact .pure fun other same => Option.some.inj same ▸ rulePlain
    · split
      · exact .fail path rfl
      · exact (IsPlain.record _ _).bind fun _ _ => .pure nofun

theorem isPlain_beginTag
    (standard : interpreter.vocabulary = .standard)
    (path : TagPath)
    {rule : TagRule}
    (rulePlain : rule.IsPlain)
    (cells : Option CellProperties)
    (node : Node) :
    (interpreter.beginTag path rule cells node).IsPlain roots fun begun => begun.rule.IsPlain := by
  rw [beginTag_eq]
  refine (IsPlain.record _ _).bind fun _ _ => .work ?_ rulePlain
  obtain ⟨buildingFound, cellFound⟩ :=
    SplitAttributes.exists_of_mem interpreter.vocabulary rule.features cells.isSome node.attributes
  rw [standard] at buildingFound cellFound ⊢
  refine (Assembly.isPlain_fillBlueprint _ fun entry member => ?building).bind fun _ => ?_
  case building =>
    obtain ⟨name, found⟩ := buildingFound entry member
    obtain ⟨_, declared, listed, _, same⟩ := Vocabulary.exists_of_building?_standard found
    exact same ▸ StandardAttribute.isRefusal_of_mem_building declared listed
  refine Assembly.isPlain_instantiate.bind fun _ => ?_
  refine (Assembly.isPlain_applyAttributes standard _).bind fun _ => ?_
  refine Assembly.isPlain_settle cells _ (fun entry member => ?_) node.text
  obtain ⟨name, found⟩ := cellFound entry member
  obtain ⟨declared, listed, _, same⟩ := Vocabulary.exists_of_cell?_standard found
  exact same ▸ StandardAttribute.isRefusal_of_mem_cell declared listed

mutual

/-- Building a tag of a forest fails only plainly, with the vocabulary of the language. -/
theorem isPlain_buildTag
    (standard : interpreter.vocabulary = .standard) :
    ∀ node parent openIds cells,
      Node.IsWithin roots node →
        (interpreter.buildTag parent openIds cells node).IsPlain roots fun _ => True
  | ⟨name, isMacro, attributes, children, text, position⟩, parent, openIds, cells, isWithin => by
      rw [buildTag]
      refine (isPlain_admitTag standard _ isWithin).bind fun admitted isAdmitted => ?_
      cases admitted with
      | none =>
          exact .pure trivial
      | some rule =>
          have rulePlain := isAdmitted rule rfl
          refine (isPlain_beginTag standard _ rulePlain _ _).bind fun begun isBegun => ?_
          refine (isPlain_buildChildren standard children _ _ _ begun isBegun ?_).bind ?_
          · exact fun child listed => .inside isWithin listed
          intro filled isFilled
          refine .bind (.work (.change fun _ => rfl) isFilled) fun finished _ => ?_
          exact (Assembly.isPlain_close _ _ _).bind fun _ _ => .pure trivial

theorem isPlain_buildChildren
    (standard : interpreter.vocabulary = .standard) :
    ∀ nodes path openIds cells assembly,
      assembly.rule.IsPlain →
        (∀ node ∈ nodes, Node.IsWithin roots node) →
          (interpreter.buildChildren path openIds cells assembly nodes).IsPlain roots fun filled =>
            filled.rule.IsPlain
  | [], _, _, _, assembly, rulePlain, _ => by
      rw [buildChildren]
      exact .pure rulePlain
  | node :: rest, path, openIds, cells, assembly, rulePlain, areWithin => by
      rw [buildChildren]
      obtain ⟨isWithin, restWithin⟩ := List.forall_mem_cons.1 areWithin
      refine (isPlain_buildTag standard node path openIds cells isWithin).bind fun built _ => ?_
      cases built with
      | none =>
          exact isPlain_buildChildren standard rest path openIds cells assembly rulePlain restWithin
      | some closed =>
          have attachPlain := Assembly.isPlain_attach closed
          refine (IsPlain.work attachPlain rulePlain).bind fun next isNext => ?_
          exact isPlain_buildChildren standard rest path openIds cells next isNext restWithin

end

theorem isPlain_buildRoots
    (standard : interpreter.vocabulary = .standard)
    {nodes : List Node}
    (areWithin : ∀ node ∈ nodes, Node.IsWithin roots node)
    (widgets : List Widget) :
    (interpreter.buildRoots widgets nodes).IsPlain roots fun _ => True := by
  induction nodes generalizing widgets with
  | nil =>
      exact .pure trivial
  | cons node rest inductionHypothesis =>
      rw [buildRoots]
      obtain ⟨isWithin, restWithin⟩ := List.forall_mem_cons.1 areWithin
      refine (isPlain_buildTag standard node .root [] none isWithin).bind fun built _ => ?_
      cases built with
      | none =>
          exact inductionHypothesis restWithin widgets
      | some closed =>
          dsimp only
          cases placed : placeRoot node closed widgets with
          | ok next =>
              exact inductionHypothesis restWithin next
          | error problem =>
              intro _ _
              unfold placeRoot at placed
              split at placed <;> cases placed
              exact .inl rfl

/-- Building a document from nodes fails only plainly, with the vocabulary of the language. -/
theorem isPlain_of_runConstruction
    (standard : interpreter.vocabulary = .standard)
    {journal : Journal}
    {nodes : List Node}
    {problem : LocatedProblem}
    (failed : (interpreter.runConstruction journal nodes).result = .error problem) :
    problem.IsPlain nodes := by
  have plain : (interpreter.build nodes).IsPlain nodes fun _ => True :=
    (isPlain_buildRoots standard (fun _ => .root) []).bind fun _ _ =>
      EndsIn.get_bind fun _ _ => IsPlain.pure trivial
  have ends := plain { journal } trivial
  unfold runConstruction at failed
  split at failed
  · cases failed
  · rename_i ran
    rw [ran] at ends
    cases failed
    exact ends

end Interpreter

end WidgetMarkup
