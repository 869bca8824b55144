import WidgetMarkup.Proofs.Construction.Leads
import WidgetMarkup.Proofs.Expansion.ParallelFilling
import WidgetMarkup.Proofs.Vocabulary.NamelessRules

namespace WidgetMarkup

open Markup

/-!
# Construction does not see the spelling of names

Tags that differ in the spelling of names are worked on in parallel: the rules found for them and
their attributes are the same, and these do not look at names. Only paths and words differ, so that
the widgets and ids are the same in both.
-/

section Split

/-- Whether two attributes with their rules are the same but for the spelling of their names. -/
def AreRuledAlike {α : Type} (free : Bool) (first second : α × Attribute) : Prop :=
  first.1 = second.1 ∧ first.2.IsRespelling free second.2

/-- Whether attributes are split in the same way, but for the spelling of their names. -/
structure SplitAttributes.IsRespelling (free : Bool) (split split' : SplitAttributes) : Prop where
  building : List.Forall₂ (AreRuledAlike free) split.building split'.building
  cell : List.Forall₂ (AreRuledAlike free) split.cell split'.cell
  target : Attribute.AreRespellings free split.target split'.target

theorem SplitAttributes.ofAttributes_respelled
    {free : Bool}
    (vocabulary : Vocabulary)
    (features : List Feature)
    (inTable : Bool)
    {entries entries' : List Attribute}
    (respelled : Attribute.AreRespellings free entries entries') :
    (ofAttributes vocabulary features inTable entries).IsRespelling free
      (ofAttributes vocabulary features inTable entries') := by
  induction respelled with
  | nil =>
      exact ⟨.nil, .nil, .nil⟩
  | cons first _ inductionHypothesis =>
      obtain ⟨building, cell, target⟩ := inductionHypothesis
      simp only [ofAttributes, Vocabulary.building?_congr first.foldCase,
        Vocabulary.cell?_congr first.foldCase]
      split
      · exact ⟨.cons ⟨rfl, first⟩ building, cell, target⟩
      · split
        · exact ⟨building, .cons ⟨rfl, first⟩ cell, target⟩
        · exact ⟨building, cell, .cons first target⟩

end Split

/-- Whether two tags of the language are under construction in the same way, but at paths that need
only lead equally deep. -/
inductive Assembly.IsMoved (assembly : Assembly) : Assembly → Prop where
  | mk
      (isStandard : assembly.rule.IsStandard)
      {path : TagPath}
      (sameDepth : assembly.path.depth = path.depth) :
      IsMoved assembly { assembly with path }

/-- Whether two tags are under construction in the same way, and the same actions were called. -/
structure Bench.Parallel (bench bench' : Bench) : Prop where
  assembly : bench.assembly.IsMoved bench'.assembly
  journal : bench.journal.SameCalls bench'.journal

namespace Work

/-- Whether two steps of the work on tags end in related ways. -/
abbrev AreParallel {α : Type} (values : α → α → Prop) (first second : Work α) : Prop :=
  WidgetMarkup.Parallel LocatedProblem.SameKind Bench.Parallel values first second

namespace AreParallel

variable {α : Type} {values : α → α → Prop}

theorem fail
    {problem problem' : Problem}
    (sameKind : problem.SameKind problem') :
    AreParallel values (Work.fail problem) (Work.fail problem') := by
  rintro ⟨assembly, journal⟩ ⟨_, journal'⟩ ⟨⟨isStandard, sameDepth⟩, related⟩
  exact .error ⟨sameKind, sameDepth⟩ ⟨⟨isStandard, sameDepth⟩, related⟩

theorem record
    (level : LogLevel)
    (text text' : String) :
    AreParallel Eq (Work.record level text) (Work.record level text') :=
  .modify fun _ _ related => ⟨related.assembly, related.journal⟩

/-- What is written beside the path of a tag may be written at another path. -/
theorem change
    {change : Assembly → Assembly}
    (keepsRule : ∀ assembly, (change assembly).rule = assembly.rule)
    (commutes : ∀ assembly path, change { assembly with path } = { change assembly with path }) :
    AreParallel Eq (Work.change change) (Work.change change) := by
  refine .modify ?_
  rintro ⟨assembly, journal⟩ ⟨_, journal'⟩ ⟨@⟨isStandard, path, sameDepth⟩, related⟩
  have keepsPath : (change assembly).path = assembly.path := by
    rw [commutes assembly assembly.path]
  refine ⟨?_, related⟩
  rw [← keepsPath] at sameDepth
  rw [← keepsRule] at isStandard
  rw [commutes assembly path]
  exact .mk isStandard sameDepth

theorem logged
    {inner inner' : Logged α}
    (parallel : Logged.Parallel values inner inner') :
    AreParallel values (Work.logged inner) (Work.logged inner') := by
  rintro ⟨assembly, journal⟩ ⟨_, journal'⟩ ⟨⟨isStandard, sameDepth⟩, related⟩
  have ends := parallel journal journal' related
  unfold Work.logged
  dsimp only
  generalize inner journal = result, inner' journal' = result' at ends
  cases ends with
  | ok given between =>
      exact .ok given ⟨⟨isStandard, sameDepth⟩, between⟩
  | error sameKind between =>
      exact .error ⟨sameKind, sameDepth⟩ ⟨⟨isStandard, sameDepth⟩, between⟩

theorem onAttribute
    {inner inner' : Work α}
    (name name' : String)
    (parallel : AreParallel values inner inner') :
    AreParallel values (Work.onAttribute name inner) (Work.onAttribute name' inner') := by
  intro bench bench' related
  have ends := parallel bench bench' related
  unfold Work.onAttribute
  generalize inner bench = result, inner' bench' = result' at ends
  cases ends with
  | ok given between =>
      exact .ok given between
  | error given between =>
      exact .error ⟨given.kind, given.depth⟩ between

theorem requireTarget :
    AreParallel Eq Work.requireTarget Work.requireTarget := by
  refine .get_bind ?_
  rintro ⟨assembly, journal⟩ ⟨_, journal'⟩ ⟨⟨isStandard, sameDepth⟩, related⟩
  dsimp only
  cases assembly.target with
  | none =>
      exact AreParallel.fail rfl
  | some target =>
      exact .pure rfl

end AreParallel

end Work

namespace Assembly

open Work (AreParallel)

variable {free : Bool} {interpreter : Interpreter} {templates : TextSource}

theorem parallel_fillBlueprint
    {entries entries' : List (BuildingRule × Attribute)}
    (respelled : List.Forall₂ (AreRuledAlike free) entries entries') :
    AreParallel Eq (fillBlueprint entries) (fillBlueprint entries') := by
  induction respelled with
  | nil =>
      exact .change (fun _ => rfl) fun _ _ => rfl
  | @cons first second _ _ same _ inductionHypothesis =>
      obtain ⟨rule, entry⟩ := first
      obtain ⟨_, entry'⟩ := second
      obtain ⟨rfl, isRespelling⟩ := same
      rw [fillBlueprint, fillBlueprint, isRespelling.value]
      refine .get_bind ?_
      rintro ⟨assembly, journal⟩ ⟨_, journal'⟩ ⟨⟨isStandard, sameDepth⟩, related⟩
      refine .bind_eq (AreParallel.record _ _ _) fun _ => ?_
      have applied :=
        (Logged.isBlind_ofExcept (rule.apply entry'.value assembly.blueprint)).parallel
      refine .bind_eq (AreParallel.onAttribute _ _ (.logged applied)) fun blueprint => ?_
      exact .bind_eq (AreParallel.change (fun _ => rfl) fun _ _ => rfl) fun _ =>
        inductionHypothesis

theorem parallel_instantiate :
    AreParallel Eq instantiate instantiate := by
  refine .get_bind ?_
  rintro ⟨assembly, journal⟩ ⟨_, journal'⟩ ⟨⟨isStandard, sameDepth⟩, related⟩
  refine .bind_eq (AreParallel.logged (Logged.isBlind_ofExcept _).parallel) fun target => ?_
  exact AreParallel.change (fun _ => rfl) fun _ _ => rfl

/-- One attribute is applied in the same way under all spellings of its name. -/
theorem parallel_applyAttribute
    (standard : interpreter.vocabulary = .standard)
    {entry entry' : Attribute}
    (isRespelling : entry.IsRespelling free entry') :
    AreParallel Eq (applyAttribute interpreter entry)
      (applyAttribute (interpreter.withTemplates templates) entry') := by
  refine .bind_eq AreParallel.requireTarget fun target => .get_bind ?_
  rintro ⟨assembly, journal⟩ ⟨_, journal'⟩ ⟨⟨isStandard, sameDepth⟩, related⟩
  dsimp only [Interpreter.withTemplates]
  rw [Vocabulary.resolve_congr isRespelling.foldCase, isRespelling.value]
  split
  · rename_i rule found
    refine .bind_eq (AreParallel.record _ _ _) fun _ => ?_
    have ignoresName := Vocabulary.ignoresName_of_resolve_standard (standard ▸ found)
    have applied := ignoresName (contextOf interpreter entry) entry'.name entry'.value
      ⟨target, assembly.onClose⟩
    refine .bind_eq (AreParallel.onAttribute _ _ (.logged applied)) fun workpiece => ?_
    exact AreParallel.change (fun _ => rfl) fun _ _ => rfl
  · exact AreParallel.onAttribute _ _ (.fail rfl)
  · split
    · exact AreParallel.onAttribute _ _ (.fail rfl)
    · exact AreParallel.record _ _ _

theorem parallel_applyAttributes
    (standard : interpreter.vocabulary = .standard)
    {entries entries' : List Attribute}
    (respelled : Attribute.AreRespellings free entries entries') :
    AreParallel Eq (applyAttributes interpreter entries)
      (applyAttributes (interpreter.withTemplates templates) entries') := by
  induction respelled with
  | nil =>
      exact .pure rfl
  | cons first _ inductionHypothesis =>
      exact .bind_eq (parallel_applyAttribute standard first) fun _ => inductionHypothesis

theorem parallel_writeCell
    {entries entries' : List (CellRule × Attribute)}
    (respelled : List.Forall₂ (AreRuledAlike free) entries entries')
    (cell : CellProperties) :
    AreParallel Eq (writeCell cell entries) (writeCell cell entries') := by
  induction respelled generalizing cell with
  | nil =>
      exact .pure rfl
  | @cons first second _ _ same _ inductionHypothesis =>
      obtain ⟨rule, entry⟩ := first
      obtain ⟨_, entry'⟩ := second
      obtain ⟨rfl, isRespelling⟩ := same
      rw [writeCell, writeCell, isRespelling.value]
      have applied := (Logged.isBlind_ofExcept (rule.apply entry'.value cell)).parallel
      exact .bind_eq (AreParallel.onAttribute _ _ (.logged applied)) inductionHypothesis

theorem parallel_takeText
    (text : String) :
    AreParallel Eq (takeText text) (takeText text) := by
  refine .bind_eq AreParallel.requireTarget fun target => .get_bind ?_
  rintro ⟨assembly, journal⟩ ⟨_, journal'⟩ ⟨⟨isStandard, sameDepth⟩, related⟩
  refine .bind_eq (AreParallel.logged (isStandard.isBlind text _ target).parallel) fun changed => ?_
  exact AreParallel.change (fun _ => rfl) fun _ _ => rfl

theorem parallel_settle
    (cells : Option CellProperties)
    {entries entries' : List (CellRule × Attribute)}
    (respelled : List.Forall₂ (AreRuledAlike free) entries entries')
    (text : String) :
    AreParallel Eq (settle cells entries text) (settle cells entries' text) := by
  have texted :
      AreParallel Eq (if !Text.isBlankText text then takeText text else pure ())
        (if !Text.isBlankText text then takeText text else pure ()) := by
    split
    · exact parallel_takeText text
    · exact .pure rfl
  cases cells with
  | none =>
      exact texted
  | some defaults =>
      refine .bind_eq ?_ fun _ => texted
      refine .bind_eq (parallel_writeCell respelled defaults) fun cell => ?_
      exact AreParallel.change (fun _ => rfl) fun _ _ => rfl

theorem parallel_attach
    (child : ClosedTag) :
    AreParallel Eq (attach child) (attach child) := by
  refine .bind_eq AreParallel.requireTarget fun target => .get_bind ?_
  rintro ⟨assembly, journal⟩ ⟨_, journal'⟩ ⟨⟨isStandard, sameDepth⟩, related⟩
  refine .bind_eq (AreParallel.logged (Logged.isBlind_ofExcept _).parallel) fun changed => ?_
  exact AreParallel.change (fun _ => rfl) fun _ _ => rfl

end Assembly

namespace Registration

/-- Whether two parts of the construction of documents end in related ways. -/
abbrev AreParallel {α : Type} (values : α → α → Prop) (first second : Registration α) : Prop :=
  WidgetMarkup.Parallel LocatedProblem.SameKind Register.SameCalls values first second

namespace AreParallel

variable {α : Type} {values : α → α → Prop} {path path' : TagPath}

theorem fail
    (sameDepth : path.depth = path'.depth)
    {problem problem' : Problem}
    (sameKind : problem.SameKind problem') :
    AreParallel values (Registration.fail path problem) (Registration.fail path' problem') :=
  .throw ⟨sameKind, sameDepth⟩

theorem record
    (level : LogLevel)
    (text text' : String) :
    AreParallel Eq (Registration.record level text) (Registration.record level text') :=
  .modify fun _ _ related => ⟨related.ids, related.journal⟩

theorem logged
    (sameDepth : path.depth = path'.depth)
    {inner inner' : Logged α}
    (parallel : Logged.Parallel values inner inner') :
    AreParallel values (Registration.logged path inner) (Registration.logged path' inner') := by
  intro register register' related
  have ends := parallel register.journal register'.journal related.journal
  unfold Registration.logged
  generalize inner register.journal = result, inner' register'.journal = result' at ends
  cases ends with
  | ok given between =>
      exact .ok given ⟨related.ids, between⟩
  | error sameKind between =>
      exact .error ⟨sameKind, sameDepth⟩ ⟨related.ids, between⟩

/-- Steps of the work on a tag are parts of the construction of a document. -/
theorem work
    {assembly assembly' : Assembly}
    (isMoved : assembly.IsMoved assembly')
    {step step' : Work Unit}
    (parallel : Work.AreParallel Eq step step') :
    AreParallel Assembly.IsMoved (Registration.work assembly step)
      (Registration.work assembly' step') := by
  intro register register' related
  have ends := parallel ⟨assembly, register.journal⟩ ⟨assembly', register'.journal⟩
    ⟨isMoved, related.journal⟩
  unfold Registration.work
  generalize step ⟨assembly, register.journal⟩ = result,
    step' ⟨assembly', register'.journal⟩ = result' at ends
  cases ends with
  | ok _ between =>
      exact .ok between.assembly ⟨related.ids, between.journal⟩
  | error given between =>
      exact .error given ⟨related.ids, between.journal⟩

end AreParallel

end Registration

open Registration (AreParallel)

namespace Assembly

variable {path path' : TagPath}

theorem parallel_runOnClose
    (sameDepth : path.depth = path'.depth)
    (actions : Actions)
    (widget : Widget)
    (closing : List String) :
    AreParallel Eq (runOnClose path actions widget closing)
      (runOnClose path' actions widget closing) := by
  induction closing generalizing widget with
  | nil =>
      exact .pure rfl
  | cons first rest inductionHypothesis =>
      have invoked := (actions.isBlind_invokeOn first widget).parallel
      exact .bind_eq (AreParallel.logged sameDepth invoked) fun answer =>
        inductionHypothesis answer.1

theorem parallel_registerId
    (sameDepth : path.depth = path'.depth)
    (widget : Widget) :
    AreParallel Eq (registerId path widget) (registerId path' widget) := by
  unfold registerId
  cases widget.id with
  | none =>
      exact .pure rfl
  | some id =>
      refine .get_bind ?_
      rintro ⟨ids, journal⟩ ⟨_, journal'⟩ ⟨rfl, related⟩
      dsimp only
      split
      · exact AreParallel.fail sameDepth rfl
      · exact fun _ _ _ => .ok rfl ⟨rfl, related⟩

theorem parallel_checkListener
    (sameDepth : path.depth = path'.depth)
    (openIds : List String)
    (actions : Actions)
    (listener : Listener) :
    AreParallel Eq (checkListener path openIds actions listener)
      (checkListener path' openIds actions listener) := by
  unfold checkListener
  cases listener.action with
  | none =>
      exact .fail sameDepth rfl
  | some reference =>
      have resolved := (Logged.isBlind_ofExcept (actions.resolve reference)).parallel
      refine .bind_eq (AreParallel.logged sameDepth resolved) fun action => .get_bind ?_
      rintro ⟨ids, journal⟩ ⟨_, journal'⟩ ⟨rfl, related⟩
      dsimp only
      split
      · exact AreParallel.fail sameDepth rfl
      · exact .pure rfl

/-- A tag is closed in the same way wherever it stands. -/
theorem parallel_close
    {assembly assembly' : Assembly}
    (isMoved : assembly.IsMoved assembly')
    (openIds : List String)
    (actions : Actions) :
    AreParallel Eq (assembly.close openIds actions) (assembly'.close openIds actions) := by
  obtain @⟨_, path', sameDepth⟩ := isMoved
  have finish (target : Target) :
      AreParallel Eq
        (do
          Registration.record .debug ("close " ++ assembly.path.render)
          return { target, cell := assembly.cell : ClosedTag })
        (do
          Registration.record .debug ("close " ++ path'.render)
          return { target, cell := assembly.cell : ClosedTag }) :=
    .bind_eq (AreParallel.record _ _ _) fun _ => .pure rfl
  unfold close
  dsimp only
  split
  · exact .bind_eq (AreParallel.fail sameDepth rfl) finish
  · refine .bind_eq (parallel_registerId sameDepth _) fun _ => ?_
    exact .bind_eq (parallel_runOnClose sameDepth actions _ _) fun changed =>
      finish (.widget changed)
  · exact .bind_eq (parallel_checkListener sameDepth openIds actions _) fun checked =>
      finish (.listener checked)

theorem IsMoved.id?_eq
    {assembly assembly' : Assembly}
    (isMoved : assembly.IsMoved assembly') :
    assembly.id? = assembly'.id? := by
  cases isMoved
  rfl

theorem IsMoved.childCells?_eq
    {assembly assembly' : Assembly}
    (isMoved : assembly.IsMoved assembly') :
    assembly.childCells? = assembly'.childCells? := by
  cases isMoved
  rfl

end Assembly

namespace Interpreter

variable
  {isTag : String → Bool}
  {interpreter : Interpreter}
  {templates : TextSource}
  {path path' : TagPath}

theorem parallel_beginTag
    (standard : interpreter.vocabulary = .standard)
    (sameDepth : path.depth = path'.depth)
    {rule : TagRule}
    (isStandard : rule.IsStandard)
    (cells : Option CellProperties)
    {node node' : Node}
    (isRespelling : node.IsRespelling isTag node') :
    AreParallel Assembly.IsMoved (interpreter.beginTag path rule cells node)
      ((interpreter.withTemplates templates).beginTag path' rule cells node') := by
  have split := SplitAttributes.ofAttributes_respelled interpreter.vocabulary rule.features
    cells.isSome isRespelling.attributes
  rw [beginTag_eq, beginTag_eq, ← isRespelling.text]
  refine .bind_eq (AreParallel.record _ _ _) fun _ => AreParallel.work (.mk isStandard sameDepth) ?_
  refine .bind_eq (Assembly.parallel_fillBlueprint split.building) fun _ => ?_
  refine .bind_eq Assembly.parallel_instantiate fun _ => ?_
  refine .bind_eq (Assembly.parallel_applyAttributes standard split.target) fun _ => ?_
  exact Assembly.parallel_settle cells split.cell node.text

/-- A tag is admitted under all spellings of its name, with a rule of the language. -/
theorem parallel_admitTag
    (standard : interpreter.vocabulary = .standard)
    (sameDepth : path.depth = path'.depth)
    {node node' : Node}
    (isRespelling : node.IsRespelling isTag node') :
    AreParallel (fun found found' => found = found' ∧ ∀ rule ∈ found, rule.IsStandard)
      (interpreter.admitTag path node)
      ((interpreter.withTemplates templates).admitTag path' node') := by
  unfold admitTag
  dsimp only [withTemplates]
  rw [isRespelling.isMacro, Vocabulary.tag?_congr isRespelling.foldCase]
  split
  · exact .fail sameDepth rfl
  · cases found : interpreter.vocabulary.tag? node'.name with
    | some rule =>
        refine .pure ⟨rfl, ?_⟩
        rintro _ ⟨⟩
        exact Vocabulary.hasStandardRules_standard.tags node'.name rule (standard ▸ found)
    | none =>
        dsimp only
        split
        · exact .fail sameDepth rfl
        · exact .bind_eq (AreParallel.record _ _ _) fun _ => .pure ⟨rfl, nofun⟩

mutual

/-- Tags that differ in the spelling of names are built in parallel. -/
theorem parallel_buildTag
    (standard : interpreter.vocabulary = .standard)
    {parent parent' : TagPath}
    (sameDepth : parent.depth = parent'.depth)
    (openIds : List String)
    (cells : Option CellProperties) :
    ∀ {node node' : Node},
      node.IsRespelling isTag node' →
        AreParallel Eq (interpreter.buildTag parent openIds cells node)
          ((interpreter.withTemplates templates).buildTag parent' openIds cells node')
  | _, _, isRespelling@(.node named attributes children) => by
      have inside := TagPath.depth_child_congr sameDepth
      rw [buildTag_eq, buildTag_eq]
      refine .bind (parallel_admitTag standard (inside _ _ _ _) isRespelling) ?_
      rintro admitted _ ⟨rfl, isStandard⟩
      cases admitted with
      | none =>
          exact .pure rfl
      | some rule =>
          refine .bind_eq ?_ fun closed => .pure rfl
          refine .bind (parallel_beginTag standard (inside _ _ _ _) (isStandard rule rfl) cells
            isRespelling) fun begun begun' moved => ?_
          rw [moved.id?_eq, moved.childCells?_eq]
          refine .bind (parallel_buildChildren standard (inside _ _ _ _) _ _ moved children) ?_
          intro filled filled' moved
          refine .bind (AreParallel.work moved (.change (fun _ => rfl) fun _ _ => rfl)) ?_
          exact fun finished finished' moved => Assembly.parallel_close moved openIds _

theorem parallel_buildChildren
    (standard : interpreter.vocabulary = .standard)
    {path path' : TagPath}
    (sameDepth : path.depth = path'.depth)
    (openIds : List String)
    (cells : Option CellProperties)
    {assembly assembly' : Assembly}
    (isMoved : assembly.IsMoved assembly') :
    ∀ {nodes nodes' : List Node},
      Node.AreRespellings isTag nodes nodes' →
        AreParallel Assembly.IsMoved
          (interpreter.buildChildren path openIds cells assembly nodes)
          ((interpreter.withTemplates templates).buildChildren path' openIds cells assembly'
            nodes')
  | _, _, .nil => by
      rw [buildChildren, buildChildren]
      exact .pure isMoved
  | _, _, .cons first others => by
      rw [buildChildren, buildChildren]
      refine .bind_eq (parallel_buildTag standard sameDepth openIds cells first) fun built => ?_
      cases built with
      | none =>
          exact parallel_buildChildren standard sameDepth openIds cells isMoved others
      | some closed =>
          refine .bind (AreParallel.work isMoved (Assembly.parallel_attach closed)) ?_
          exact fun next next' isMoved =>
            parallel_buildChildren standard sameDepth openIds cells isMoved others

end

/-- A finished tag joins the roots before it in the same way under all spellings of its name. -/
theorem parallel_placeRoot
    (node node' : Node)
    (closed : ClosedTag)
    (roots : List Widget)
    {rest rest' : List Widget → Registration (List Widget)}
    (rests : ∀ next, AreParallel Eq (rest next) (rest' next)) :
    AreParallel Eq
      (match placeRoot node closed roots with
      | .ok next => rest next
      | .error problem => throw problem)
      (match placeRoot node' closed roots with
      | .ok next => rest' next
      | .error problem => throw problem) := by
  unfold placeRoot
  cases closed.target with
  | widget widget =>
      exact rests _
  | listener listener =>
      cases roots with
      | nil =>
          exact .throw ⟨rfl, TagPath.depth_child_congr rfl _ _ _ _⟩
      | cons previous others =>
          exact rests _

theorem parallel_buildRoots
    (standard : interpreter.vocabulary = .standard)
    (roots : List Widget)
    {nodes nodes' : List Node}
    (respelled : Node.AreRespellings isTag nodes nodes') :
    AreParallel Eq (interpreter.buildRoots roots nodes)
      ((interpreter.withTemplates templates).buildRoots roots nodes') := by
  induction nodes generalizing roots nodes' with
  | nil =>
      cases respelled
      exact .pure rfl
  | cons node rest inductionHypothesis =>
      cases respelled with
      | cons first others =>
          rw [buildRoots, buildRoots]
          refine .bind_eq (parallel_buildTag standard rfl [] none first) fun built => ?_
          cases built with
          | none =>
              exact inductionHypothesis roots others
          | some closed =>
              exact parallel_placeRoot _ _ closed roots fun next => inductionHypothesis next others

theorem parallel_build
    (standard : interpreter.vocabulary = .standard)
    {nodes nodes' : List Node}
    (respelled : Node.AreRespellings isTag nodes nodes') :
    AreParallel Eq (interpreter.build nodes)
      ((interpreter.withTemplates templates).build nodes') := by
  refine .bind_eq (parallel_buildRoots standard [] respelled) fun roots => .get_bind ?_
  intro register register' related
  rw [related.ids]
  exact .pure rfl

/-- The construction of documents from tags that differ in the spelling of names ends in the same
way. -/
theorem parallel_runConstruction
    (standard : interpreter.vocabulary = .standard)
    {journal journal' : Journal}
    (sameCalls : journal.SameCalls journal')
    {nodes nodes' : List Node}
    (respelled : Node.AreRespellings isTag nodes nodes') :
    Run.Parallel Eq (interpreter.runConstruction journal nodes)
      ((interpreter.withTemplates templates).runConstruction journal' nodes') := by
  have ends :
      ParallelResults LocatedProblem.SameKind Register.SameCalls Eq
        (interpreter.build nodes { journal })
        ((interpreter.withTemplates templates).build nodes' { journal := journal' }) :=
    parallel_build standard respelled _ _ ⟨rfl, sameCalls⟩
  unfold runConstruction
  generalize interpreter.build nodes { journal } = result,
    (interpreter.withTemplates templates).build nodes' { journal := journal' } = result' at ends
  cases ends with
  | ok same related =>
      exact .ok same related.journal
  | error sameKind related =>
      exact .error sameKind related.journal

end Interpreter

end WidgetMarkup
