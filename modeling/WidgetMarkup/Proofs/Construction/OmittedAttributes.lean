import WidgetMarkup.Proofs.Construction.ActionOrder
import WidgetMarkup.Proofs.Construction.Beginnings
import WidgetMarkup.Proofs.Construction.ParallelConstruction
import WidgetMarkup.Proofs.Vocabulary.OverwritingRules

namespace WidgetMarkup

open Markup

/-!
# Attributes that may be left out

Where an attribute replaces what others have written before it, a tag is built as if it did not
have these. In between, the two runs differ in the place that is replaced and in nothing else.
-/

/-- Whether elements are others without some of those of a condition. -/
inductive Omits {α : Type} (omitted : α → Prop) : List α → List α → Prop where
  | nil : Omits omitted [] []
  | keeps
      {first second : List α}
      (element : α)
      (rest : Omits omitted first second) :
      Omits omitted (element :: first) (element :: second)
  | drops
      {first second : List α}
      {element : α}
      (isOmitted : omitted element)
      (rest : Omits omitted first second) :
      Omits omitted (element :: first) second

namespace Omits

variable {α : Type} {omitted : α → Prop} {first second : List α}

theorem refl :
    ∀ elements : List α, Omits omitted elements elements
  | [] => .nil
  | element :: rest => .keeps element (refl rest)

theorem append_right
    (omits : Omits omitted first second)
    (rest : List α) :
    Omits omitted (first ++ rest) (second ++ rest) := by
  induction omits with
  | nil =>
      exact refl rest
  | keeps element _ inductionHypothesis =>
      exact .keeps element inductionHypothesis
  | drops isOmitted _ inductionHypothesis =>
      exact .drops isOmitted inductionHypothesis

theorem imp
    {other : α → Prop}
    (omits : Omits omitted first second)
    (implies : ∀ element, omitted element → other element) :
    Omits other first second := by
  induction omits with
  | nil =>
      exact .nil
  | keeps element _ inductionHypothesis =>
      exact .keeps element inductionHypothesis
  | drops isOmitted _ inductionHypothesis =>
      exact .drops (implies _ isOmitted) inductionHypothesis

/-- Where no element is of the condition, none is left out. -/
theorem eq_of_forall_not
    (omits : Omits omitted first second)
    (none : ∀ element ∈ first, ¬ omitted element) :
    second = first := by
  induction omits with
  | nil =>
      rfl
  | keeps element _ inductionHypothesis =>
      rw [inductionHypothesis fun other member => none other (.tail _ member)]
  | drops isOmitted =>
      exact absurd isOmitted (none _ (.head _))

/-- Attributes that are left out are missed under no other name. -/
theorem lookup?_eq
    {omitted : Attribute → Prop}
    {first second : List Attribute}
    (omits : Omits omitted first second)
    {name : String}
    (others : ∀ entry, omitted entry → entry.isNamed name = false)
    (rest : List Attribute) :
    Attribute.lookup? name (second ++ rest) = Attribute.lookup? name (first ++ rest) := by
  unfold Attribute.lookup?
  congr 1
  induction omits with
  | nil =>
      rfl
  | keeps entry _ inductionHypothesis =>
      rw [List.cons_append, List.cons_append, List.find?_cons, List.find?_cons,
        inductionHypothesis]
  | drops isOmitted _ inductionHypothesis =>
      rw [List.cons_append, List.find?_cons, others _ isOmitted, inductionHypothesis]

end Omits

/-- What an attribute of a tag is given to, by a rule for it. -/
inductive Processor where
  | building (rule : BuildingRule)
  | cell (rule : CellRule)
  | target (rule : AttributeRule)

namespace Processor

/-- Whether a processor is registered in the language under names. -/
inductive IsRegistered : List String → Processor → Prop where
  | building
      {entry : List String × BuildingRule}
      (listed : entry ∈ StandardAttribute.building) :
      IsRegistered entry.1 (.building entry.2)
  | cell
      {entry : CellAlias × CellRule}
      (listed : entry ∈ StandardAttribute.cell) :
      IsRegistered [entry.1.cell] (.cell entry.2)
  | target
      {entry : List String × AttributeRule}
      (listed : entry ∈ StandardAttribute.target) :
      IsRegistered entry.1 (.target entry.2)
  | cellDefaults
      {names : CellAlias}
      {rule : CellRule}
      {name : String}
      (listed : (names, rule) ∈ StandardAttribute.cell)
      (onTables : names.default = some name) :
      IsRegistered [name] (.target (.cellDefaults rule))

/-- Whether a processor adds something each time an attribute is given to it. -/
inductive Accumulates : Processor → Prop where
  | target
      {rule : AttributeRule}
      (accumulates : rule.Accumulates) :
      Accumulates (.target rule)

/-- Whether a processor is for finished targets. -/
def isOfTargets : Processor → Bool
  | .target _ => true
  | .building _ | .cell _ => false

end Processor

namespace Vocabulary

/-- What a name is given to, for tags with features, in a table or not, that make targets of an
ancestry. -/
def processor?
    (vocabulary : Vocabulary)
    (features : List Feature)
    (inTable : Bool)
    (ancestry : List TargetKey)
    (name : String) :
    Option Processor :=
  match vocabulary.building? name features with
  | some rule => some (.building rule)
  | none =>
      match if inTable then vocabulary.cell? name else none with
      | some rule => some (.cell rule)
      | none =>
          match vocabulary.resolve ancestry name with
          | .found rule => some (.target rule)
          | .unsupported | .unknown => none

variable
  {vocabulary : Vocabulary}
  {features : List Feature}
  {inTable : Bool}
  {ancestry : List TargetKey}
  {name : String}

theorem processor?_eq_building_iff
    {rule : BuildingRule} :
    vocabulary.processor? features inTable ancestry name = some (.building rule) ↔
      vocabulary.building? name features = some rule := by
  unfold processor?
  cases vocabulary.building? name features with
  | some found =>
      simp
  | none =>
      cases if inTable then vocabulary.cell? name else none with
      | some found =>
          simp
      | none =>
          cases vocabulary.resolve ancestry name <;> simp

theorem processor?_eq_target_iff
    {rule : AttributeRule} :
    vocabulary.processor? features inTable ancestry name = some (.target rule) ↔
      vocabulary.building? name features = none ∧
        (if inTable then vocabulary.cell? name else none) = none ∧
          vocabulary.resolve ancestry name = .found rule := by
  unfold processor?
  cases vocabulary.building? name features with
  | some found =>
      simp
  | none =>
      cases if inTable then vocabulary.cell? name else none with
      | some found =>
          simp
      | none =>
          cases vocabulary.resolve ancestry name <;> simp

end Vocabulary

namespace SplitAttributes

variable
  {vocabulary : Vocabulary}
  {features : List Feature}
  {inTable : Bool}
  {ancestry : List TargetKey}
  {first second : List Attribute}

theorem ofAttributes_append
    (first second : List Attribute) :
    let split := ofAttributes vocabulary features inTable
    split (first ++ second) =
      { building := (split first).building ++ (split second).building
        cell := (split first).cell ++ (split second).cell
        target := (split first).target ++ (split second).target } := by
  induction first with
  | nil =>
      rfl
  | cons entry rest inductionHypothesis =>
      dsimp only at inductionHypothesis ⊢
      simp only [List.cons_append, ofAttributes, inductionHypothesis]
      split
      · rfl
      · split <;> rfl

/-- Attributes that are left out for a rule of blueprints are missing there and nowhere else. -/
theorem omits_building
    {rule : BuildingRule}
    (omits :
      Omits
        (fun entry =>
          vocabulary.processor? features inTable ancestry entry.name = some (.building rule))
        first second) :
    let split := ofAttributes vocabulary features inTable
    Omits (fun ruled => ruled.1 = rule) (split first).building (split second).building ∧
      (split second).cell = (split first).cell ∧ (split second).target = (split first).target := by
  induction omits with
  | nil =>
      exact ⟨.nil, rfl, rfl⟩
  | keeps entry _ inductionHypothesis =>
      obtain ⟨building, cell, target⟩ := inductionHypothesis
      simp only [ofAttributes]
      split
      · exact ⟨.keeps _ building, cell, target⟩
      · split
        · exact ⟨building, congrArg (List.cons _) cell, target⟩
        · exact ⟨building, cell, congrArg (List.cons _) target⟩
  | drops isOmitted _ inductionHypothesis =>
      obtain ⟨building, cell, target⟩ := inductionHypothesis
      simp only [ofAttributes, Vocabulary.processor?_eq_building_iff.1 isOmitted]
      exact ⟨.drops rfl building, cell, target⟩

/-- Attributes that are left out for a rule of targets are missing there and nowhere else. -/
theorem omits_target
    {rule : AttributeRule}
    (omits :
      Omits
        (fun entry =>
          vocabulary.processor? features inTable ancestry entry.name = some (.target rule))
        first second) :
    let split := ofAttributes vocabulary features inTable
    Omits (fun entry => vocabulary.resolve ancestry entry.name = .found rule)
        (split first).target (split second).target ∧
      (split second).building = (split first).building ∧
        (split second).cell = (split first).cell := by
  induction omits with
  | nil =>
      exact ⟨.nil, rfl, rfl⟩
  | keeps entry _ inductionHypothesis =>
      obtain ⟨target, building, cell⟩ := inductionHypothesis
      simp only [ofAttributes]
      split
      · exact ⟨target, congrArg (List.cons _) building, cell⟩
      · split
        · exact ⟨target, building, congrArg (List.cons _) cell⟩
        · exact ⟨.keeps entry target, building, cell⟩
  | drops isOmitted _ inductionHypothesis =>
      obtain ⟨target, building, cell⟩ := inductionHypothesis
      obtain ⟨notBuilding, notCell, found⟩ := Vocabulary.processor?_eq_target_iff.1 isOmitted
      simp only [ofAttributes, notBuilding, notCell]
      exact ⟨.drops found target, building, cell⟩

end SplitAttributes

/-- Blueprints that are filled in with attributes that are replaced, and without them, become the
same. -/
theorem BlueprintEffects.omitting
    {rule : BuildingRule}
    (overwrites : rule.Overwrites)
    {first second later : List (BuildingRule × Attribute)}
    {before before' after : Blueprint}
    {entry : Attribute}
    (ruled : ∀ ruled ∈ first, ∃ listed ∈ StandardAttribute.building, listed.2 = ruled.1)
    (omits : Omits (fun ruled => ruled.1 = rule) first second)
    (agree : rule.AgreeBehind before before')
    (effects : BlueprintEffects (first ++ (rule, entry) :: later) before after) :
    BlueprintEffects (second ++ (rule, entry) :: later) before' after := by
  induction omits generalizing before before' with
  | nil =>
      cases effects with
      | writes applied rest =>
          exact .writes (agree _ ▸ applied) rest
  | keeps element _ inductionHypothesis =>
      obtain ⟨_, own⟩ := element
      obtain ⟨listed, member, ⟨⟩⟩ := ruled _ (.head _)
      cases effects with
      | writes applied rest =>
          obtain ⟨between', applied', agree'⟩ := overwrites.behind listed member agree applied
          exact .writes applied'
            (inductionHypothesis (fun _ inside => ruled _ (.tail _ inside)) agree' rest)
  | drops isOmitted _ inductionHypothesis =>
      cases isOmitted
      cases effects with
      | writes applied rest =>
          have agree' := fun raw => (overwrites.again applied raw).trans (agree raw)
          exact inductionHypothesis (fun _ inside => ruled _ (.tail _ inside)) agree' rest

/-- What follows a part that succeeds is run behind it. -/
theorem bind_of_ok
    {ε σ α β : Type}
    {first : EStateM ε σ α}
    {next : α → EStateM ε σ β}
    {before between : σ}
    {value : α}
    (ran : first before = .ok value between) :
    (first >>= next) before = next value between := by
  simp only [bind, EStateM.bind, ran]

theorem get_bind
    {ε σ α : Type}
    (next : σ → EStateM ε σ α)
    (state : σ) :
    (get >>= next) state = next state state :=
  rfl

namespace Work

theorem record_bind
    {α : Type}
    (level : LogLevel)
    (text : String)
    (next : Unit → Work α)
    (bench : Bench) :
    (record level text >>= next) bench =
      next () { bench with journal := bench.journal.record level text } :=
  rfl

theorem requireTarget_of_made
    {bench : Bench}
    {target : Target}
    (made : bench.assembly.target = some target) :
    requireTarget bench = .ok target bench := by
  rw [requireTarget, get_bind, made]
  rfl

theorem onAttribute_logged_of_ok
    {α : Type}
    {name : String}
    {inner : Logged α}
    {value : α}
    {bench : Bench}
    {journal : Journal}
    (ran : inner bench.journal = .ok value journal) :
    onAttribute name (logged inner) bench = .ok value { bench with journal } := by
  simp only [onAttribute, logged, ran]

end Work

namespace Assembly

open Work (Leads AreParallel requireTarget_of_made)

/-- A blueprint is filled in with what the attributes have an effect for. -/
theorem exists_fillBlueprint
    {entries : List (BuildingRule × Attribute)}
    {before blueprint : Blueprint}
    (effects : BlueprintEffects entries before blueprint) :
    ∀ bench : Bench, bench.assembly.blueprint = before →
      ∃ journal,
        fillBlueprint entries bench =
            .ok () ⟨{ bench.assembly with blueprint, stage := .blueprintFilled }, journal⟩ ∧
          bench.journal.SameCalls journal := by
  induction effects with
  | nothing =>
      rintro bench rfl
      exact ⟨bench.journal, rfl, rfl⟩
  | @writes rule entry entries _ between _ applied _ inductionHypothesis =>
      rintro bench rfl
      let journal := bench.journal.record .trace
        (bench.assembly.path.render ++ ": building " ++ entry.name ++ "=" ++
          Text.quote entry.value)
      have written :
          fillBlueprint ((rule, entry) :: entries) bench =
            fillBlueprint entries ⟨{ bench.assembly with blueprint := between }, journal⟩ := by
        rw [fillBlueprint, get_bind, Work.record_bind, applied]
        rfl
      obtain ⟨journal', filled, same⟩ :=
        inductionHypothesis ⟨{ bench.assembly with blueprint := between }, journal⟩ rfl
      exact ⟨journal', written.trans filled, same⟩

/-- How an attribute that can be applied changes a tag, the log apart. -/
inductive Applies (interpreter : Interpreter) (entry : Attribute) (target : Target) (bench : Bench) :
    Bench → Prop where
  | found
      {rule : AttributeRule}
      {workpiece : Workpiece}
      {journal after : Journal}
      (found : interpreter.vocabulary.resolve target.ancestry entry.name = .found rule)
      (same : bench.journal.SameCalls journal)
      (ran :
        rule.apply (contextOf interpreter entry) entry.value ⟨target, bench.assembly.onClose⟩
          journal = .ok workpiece after) :
      Applies interpreter entry target bench
        ⟨{ bench.assembly with target := some workpiece.target, onClose := workpiece.onClose },
          after⟩
  | skipped
      {journal : Journal}
      (unknown : interpreter.vocabulary.resolve target.ancestry entry.name = .unknown)
      (lenient : interpreter.settings.unknownAttributes = .warn)
      (same : bench.journal.SameCalls journal) :
      Applies interpreter entry target bench ⟨bench.assembly, journal⟩

variable
  {interpreter : Interpreter}
  {entry : Attribute}
  {bench after : Bench}
  {target : Target}

theorem applies_of_applyAttribute
    (made : bench.assembly.target = some target)
    (ran : applyAttribute interpreter entry bench = .ok () after) :
    Applies interpreter entry target bench after := by
  rw [applyAttribute, bind_of_ok (requireTarget_of_made made), get_bind] at ran
  cases found : interpreter.vocabulary.resolve target.ancestry entry.name with
  | found rule =>
      simp only [found] at ran
      rw [Work.record_bind] at ran
      obtain ⟨workpiece, _, applied, ran⟩ := bind_eq_ok ran
      obtain ⟨journal, runs, rfl⟩ := Work.logged_eq_ok (Work.onAttribute_eq_ok applied)
      cases ran
      refine .found found ?_ runs
      rfl
  | unsupported =>
      simp only [found] at ran
      cases ran
  | unknown =>
      simp only [found] at ran
      cases lenient : interpreter.settings.unknownAttributes with
      | fail =>
          rw [lenient] at ran
          cases ran
      | warn =>
          rw [lenient] at ran
          cases ran
          exact .skipped found lenient rfl

theorem exists_applyAttribute_of_found
    (made : bench.assembly.target = some target)
    {rule : AttributeRule}
    (found : interpreter.vocabulary.resolve target.ancestry entry.name = .found rule)
    {workpiece : Workpiece}
    {journal : Journal}
    (runs :
      ∀ before, bench.journal.SameCalls before →
        ∃ after,
          rule.apply (contextOf interpreter entry) entry.value ⟨target, bench.assembly.onClose⟩
              before = .ok workpiece after ∧
            journal.SameCalls after) :
    ∃ after,
      applyAttribute interpreter entry bench =
          .ok ()
            ⟨{ bench.assembly with target := some workpiece.target, onClose := workpiece.onClose },
              after⟩ ∧
        journal.SameCalls after := by
  let text := entry.name ++ "=" ++ Text.quote entry.value ++ " on " ++ target.describe
  obtain ⟨after, applied, same⟩ := runs (bench.journal.record .trace text) rfl
  refine ⟨after, ?_, same⟩
  rw [applyAttribute, bind_of_ok (requireTarget_of_made made), get_bind]
  simp only [found]
  rw [Work.record_bind, bind_of_ok (Work.onAttribute_logged_of_ok applied)]
  rfl

theorem exists_applyAttribute_of_unknown
    (made : bench.assembly.target = some target)
    (unknown : interpreter.vocabulary.resolve target.ancestry entry.name = .unknown)
    (lenient : interpreter.settings.unknownAttributes = .warn) :
    ∃ journal,
      applyAttribute interpreter entry bench = .ok () ⟨bench.assembly, journal⟩ ∧
        bench.journal.SameCalls journal := by
  rw [applyAttribute, bind_of_ok (requireTarget_of_made made), get_bind]
  simp only [unknown, lenient]
  exact ⟨_, rfl, rfl⟩

end Assembly

/-- Whether two runs have come to the same tag, but for widgets that become the same by whatever a
function writes into them. -/
inductive Bench.AgreeBehind {α : Type} (write : α → Widget → Widget) (ancestry : List TargetKey) :
    Bench → Bench → Prop where
  | mk
      {assembly : Assembly}
      {widget widget' : Widget}
      {journal journal' : Journal}
      (made : assembly.target = some (.widget widget))
      (isOfAncestry : widget.kind.ancestry = ancestry)
      (agree : Widget.AgreeBehind write widget widget')
      (same : journal.SameCalls journal') :
      AgreeBehind write ancestry ⟨assembly, journal⟩
        ⟨{ assembly with target := some (.widget widget') }, journal'⟩

namespace Bench.AgreeBehind

open Assembly (applyAttribute applyAttributes)

variable
  {α : Type}
  {interpreter : Interpreter}
  {key : TargetKey}
  {read : String → Except ValueError α}
  {write : α → Widget → Widget}
  {ancestry : List TargetKey}
  {entry : Attribute}
  {bench bench' after : Bench}

/-- An attribute that runs no action at once leaves such widgets behind again. -/
theorem keeps
    (standard : interpreter.vocabulary = .standard)
    (isProperty : Widget.IsProperty write)
    (yields :
      ∀ entry ∈ StandardAttribute.target,
        entry.1 = Declaration.creatingNames ∨ entry.2.YieldsTo write)
    (runsNothing : entry.isCreating = false)
    (related : bench.AgreeBehind write ancestry bench')
    (ran : applyAttribute interpreter entry bench = .ok () after) :
    ∃ after',
      applyAttribute interpreter entry bench' = .ok () after' ∧
        after.AgreeBehind write ancestry after' := by
  obtain ⟨made, isOfAncestry, agree, same⟩ := related
  rename_i assembly widget widget' journal journal'
  have sameAncestry : (Target.widget widget').ancestry = (Target.widget widget).ancestry :=
    congrArg WidgetKind.ancestry agree.kind
  let other : Bench := ⟨{ assembly with target := some (.widget widget') }, journal'⟩
  have made' : other.assembly.target = some (.widget widget') := rfl
  cases Assembly.applies_of_applyAttribute made ran with
  | @found rule workpiece between after found sameCalls runs =>
      have yieldsTo : rule.YieldsTo write := by
        obtain ⟨_, ⟨listed, member, named, rfl⟩ | ⟨_, _, _, rfl⟩⟩ :=
          Vocabulary.exists_of_resolve_standard (standard ▸ found)
        · rcases yields listed member with isCreating | yieldsTo
          · rw [isCreating] at named
            exact absurd named (Bool.eq_false_iff.1 runsNothing)
          · exact yieldsTo
        · exact .cellDefaults _
      obtain ⟨changed, changed', isChanged, sameKind, agree', runs'⟩ :=
        yieldsTo.apply isProperty agree runs
      have applies (before : Journal) (sameBefore : journal'.SameCalls before) :=
        runs' before ((sameCalls.symm.trans same).trans sameBefore)
      obtain ⟨after', applied, sameAfter⟩ :=
        Assembly.exists_applyAttribute_of_found made' (sameAncestry ▸ found) applies
      exact ⟨_, applied, .mk (congrArg some isChanged) (sameKind ▸ isOfAncestry) agree' sameAfter⟩
  | skipped unknown lenient sameCalls =>
      obtain ⟨after', applied, sameAfter⟩ :=
        Assembly.exists_applyAttribute_of_unknown made' (sameAncestry ▸ unknown) lenient
      exact ⟨_, applied, .mk made isOfAncestry agree
        ((sameCalls.symm.trans same).trans sameAfter)⟩

section Written

/-- An attribute that writes a property of a widget leaves behind the widget with its value. -/
theorem written
    {assembly : Assembly}
    {widget : Widget}
    {journal : Journal}
    (made : assembly.target = some (.widget widget))
    (found :
      interpreter.vocabulary.resolve widget.kind.ancestry entry.name =
        .found (.setting key read write))
    (ran : applyAttribute interpreter entry ⟨assembly, journal⟩ = .ok () after) :
    ∃ value after',
      readValueWith read entry.value = .ok value ∧ journal.SameCalls after' ∧
        after = ⟨{ assembly with target := some (.widget (write value widget)) }, after'⟩ := by
  cases Assembly.applies_of_applyAttribute made ran with
  | skipped unknown =>
      cases found.symm.trans unknown
  | found found' same runs =>
      cases Resolution.found.inj (found.symm.trans found')
      obtain ⟨value, _, isRead, _, _⟩ := AttributeRule.onWidget_eq_ok runs
      rw [AttributeRule.setting, AttributeRule.apply_onWidget_of_read isRead] at runs
      cases runs
      exact ⟨value, _, isRead, same, rfl⟩

/-- An attribute whose value is replaced need not be applied. -/
theorem drops
    (isProperty : Widget.IsProperty write)
    (found : interpreter.vocabulary.resolve ancestry entry.name = .found (.setting key read write))
    (related : bench.AgreeBehind write ancestry bench')
    (ran : applyAttribute interpreter entry bench = .ok () after) :
    after.AgreeBehind write ancestry bench' := by
  obtain ⟨made, rfl, agree, same⟩ := related
  obtain ⟨value, after', _, sameAfter, rfl⟩ := written made found ran
  refine .mk rfl (congrArg _ (isProperty.kind value _)) ⟨?_, ?_, fun value' => ?_⟩
    (sameAfter.symm.trans same)
  · rw [isProperty.kind, agree.kind]
  · rw [isProperty.content, agree.content]
  · rw [isProperty.again, agree.written]

/-- An attribute that replaces the value makes one widget of two. -/
theorem meets
    (found : interpreter.vocabulary.resolve ancestry entry.name = .found (.setting key read write))
    (related : bench.AgreeBehind write ancestry bench')
    (ran : applyAttribute interpreter entry bench = .ok () after) :
    ∃ after', applyAttribute interpreter entry bench' = .ok () after' ∧ after.SameCalls after' := by
  obtain ⟨made, rfl, agree, same⟩ := related
  rename_i assembly widget widget' journal journal'
  obtain ⟨value, after', isRead, sameAfter, rfl⟩ := written made found ran
  let other : Bench := ⟨{ assembly with target := some (.widget widget') }, journal'⟩
  have made' : other.assembly.target = some (.widget widget') := rfl
  have sameAncestry : (Target.widget widget').ancestry = widget.kind.ancestry :=
    congrArg WidgetKind.ancestry agree.kind
  obtain ⟨last, applied, sameLast⟩ :=
    Assembly.exists_applyAttribute_of_found made' (sameAncestry ▸ found) fun before sameBefore =>
      ⟨before, AttributeRule.apply_onWidget_of_read isRead widget' _ before, sameBefore⟩
  refine ⟨_, applied, ?_, (sameAfter.symm.trans same).trans sameLast⟩
  rw [agree.written]

end Written

end Bench.AgreeBehind

namespace Assembly

variable {interpreter : Interpreter}

theorem applyAttributes_append
    (first second : List Attribute) :
    applyAttributes interpreter (first ++ second) =
      (do
        applyAttributes interpreter first
        applyAttributes interpreter second) := by
  induction first with
  | nil =>
      exact (pure_bind _ _).symm
  | cons entry rest inductionHypothesis =>
      rw [List.cons_append, applyAttributes, inductionHypothesis, applyAttributes, bind_assoc]

theorem applyAttributes_append_cons
    (first : List Attribute)
    (entry : Attribute)
    (later : List Attribute) :
    applyAttributes interpreter (first ++ entry :: later) =
      (do
        applyAttributes interpreter (first ++ [entry])
        applyAttributes interpreter later) := by
  rw [List.append_cons, applyAttributes_append]

/-- Attributes whose value is replaced by a later one may be left out before it. -/
theorem exists_applyAttributes_omitting
    (standard : interpreter.vocabulary = .standard)
    {α : Type}
    {key : TargetKey}
    {read : String → Except ValueError α}
    {write : α → Widget → Widget}
    (isProperty : Widget.IsProperty write)
    (yields :
      ∀ entry ∈ StandardAttribute.target,
        entry.1 = Declaration.creatingNames ∨ entry.2.YieldsTo write)
    {ancestry : List TargetKey}
    {entry : Attribute}
    (found : interpreter.vocabulary.resolve ancestry entry.name = .found (.setting key read write))
    {first second : List Attribute}
    (omits :
      Omits
        (fun own =>
          interpreter.vocabulary.resolve ancestry own.name = .found (.setting key read write))
        first second)
    (runsNothing : ∀ own ∈ first, own.isCreating = false)
    {bench bench' after : Bench}
    (related : bench.AgreeBehind write ancestry bench')
    (ran : applyAttributes interpreter (first ++ [entry]) bench = .ok () after) :
    ∃ after',
      applyAttributes interpreter (second ++ [entry]) bench' = .ok () after' ∧
        after.SameCalls after' := by
  induction omits generalizing bench bench' with
  | nil =>
      obtain ⟨_, between, applied, ⟨⟩⟩ := bind_eq_ok ran
      obtain ⟨after', applied', same⟩ := related.meets found applied
      exact ⟨after', bind_of_ok applied', same⟩
  | keeps own _ inductionHypothesis =>
      obtain ⟨_, between, applied, rest⟩ := bind_eq_ok ran
      obtain ⟨between', applied', related'⟩ :=
        related.keeps standard isProperty yields (runsNothing _ (.head _)) applied
      obtain ⟨after', rest', same⟩ :=
        inductionHypothesis (fun _ inside => runsNothing _ (.tail _ inside)) related' rest
      exact ⟨after', (bind_of_ok applied').trans rest', same⟩
  | drops isOmitted _ inductionHypothesis =>
      obtain ⟨_, between, applied, rest⟩ := bind_eq_ok ran
      exact inductionHypothesis (fun _ inside => runsNothing _ (.tail _ inside))
        (related.drops isProperty isOmitted applied) rest

end Assembly

end WidgetMarkup
