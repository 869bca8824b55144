import WidgetMarkup.Construction.Build

namespace WidgetMarkup

open Markup

/-!
# What the work on a tag leads to

A step of the work on a tag that succeeds leads from tags of one condition to tags of another. What
holds of a tag through a step is said here once for each step, for any condition that does not
depend on what the step changes.
-/

/-- What cannot depend on the journal gives what it is and leaves the journal as it was. -/
theorem Logged.ofExcept_eq_ok
    {α : Type}
    {outcome : Except Problem α}
    {value : α}
    {journal journal' : Journal}
    (ran : Logged.ofExcept outcome journal = .ok value journal') :
    outcome = .ok value := by
  cases outcome <;> cases ran
  rfl

namespace Work

variable {α β : Type}

/-- Whether a step that succeeds on tags of one condition leaves them in another, which may depend
on what the step gives. -/
def Leads (before : Assembly → Prop) (step : Work α) (after : α → Assembly → Prop) : Prop :=
  ∀ bench value bench',
    before bench.assembly → step bench = .ok value bench' → after value bench'.assembly

namespace Leads

variable
  {before : Assembly → Prop}
  {after : α → Assembly → Prop}
  {step : Work α}

theorem pure
    {value : α}
    (holds : ∀ assembly, before assembly → after value assembly) :
    Leads before (Pure.pure value) after := by
  rintro bench _ _ isBefore ⟨⟩
  exact holds _ isBefore

theorem fail
    (problem : Problem) :
    Leads before (Work.fail problem) after := by
  rintro bench value bench' _ ⟨⟩

theorem bind
    {next : α → Work β}
    {final : β → Assembly → Prop}
    (first : Leads before step after)
    (nexts : ∀ value, Leads (after value) (next value) final) :
    Leads before (step >>= next) final := by
  intro bench result bench' isBefore ran
  obtain ⟨value, between, given, ran⟩ := bind_eq_ok ran
  exact nexts value between result bench' (first bench value between isBefore given) ran

theorem get_bind
    {next : Bench → Work α}
    (nexts : ∀ bench, before bench.assembly → Leads (· = bench.assembly) (next bench) after) :
    Leads before (get >>= next) after :=
  fun bench value bench' isBefore ran => nexts bench isBefore bench value bench' rfl ran

theorem mono
    {before' : Assembly → Prop}
    {after' : α → Assembly → Prop}
    (leads : Leads before step after)
    (stronger : ∀ assembly, before' assembly → before assembly)
    (weaker : ∀ value assembly, after value assembly → after' value assembly) :
    Leads before' step after' :=
  fun bench value bench' isBefore ran =>
    weaker _ _ (leads bench value bench' (stronger _ isBefore) ran)

theorem record
    (level : LogLevel)
    (text : String) :
    Leads before (Work.record level text) fun _ => before := by
  rintro bench _ _ isBefore ⟨⟩
  exact isBefore

theorem change
    {change : Assembly → Assembly}
    {after : Unit → Assembly → Prop}
    (holds : ∀ assembly, before assembly → after () (change assembly)) :
    Leads before (Work.change change) after := by
  rintro bench _ _ isBefore ⟨⟩
  exact holds _ isBefore

/-- A change leads to what it makes of a tag. -/
theorem changed
    {change : Assembly → Assembly} :
    Leads before (Work.change change) fun _ after =>
      ∃ assembly, before assembly ∧ after = change assembly := by
  rintro bench _ _ isBefore ⟨⟩
  exact ⟨bench.assembly, isBefore, rfl⟩

/-- A step may be looked at for each tag that it is done to. -/
theorem each
    (leads : ∀ assembly, before assembly → Leads (· = assembly) step after) :
    Leads before step after :=
  fun bench value bench' isBefore ran => leads bench.assembly isBefore bench value bench' rfl ran

theorem logged
    (inner : Logged α) :
    Leads before (Work.logged inner) fun value assembly =>
      before assembly ∧ ∃ journal journal', inner journal = .ok value journal' := by
  intro bench value bench' isBefore ran
  unfold Work.logged at ran
  cases given : inner bench.journal with
  | ok value' journal =>
      rw [given] at ran
      cases ran
      exact ⟨isBefore, _, _, given⟩
  | error problem journal =>
      rw [given] at ran
      cases ran

theorem onAttribute
    (leads : Leads before step after)
    (name : String) :
    Leads before (Work.onAttribute name step) after := by
  intro bench value bench' isBefore ran
  unfold Work.onAttribute at ran
  cases given : step bench with
  | ok value' between =>
      rw [given] at ran
      cases ran
      exact leads bench value bench' isBefore given
  | error problem between =>
      rw [given] at ran
      cases ran

theorem requireTarget :
    Leads before Work.requireTarget fun target assembly =>
      before assembly ∧ assembly.target = some target := by
  refine .get_bind fun bench isBefore => ?_
  cases made : bench.assembly.target with
  | none =>
      exact .fail _
  | some target =>
      exact .pure fun assembly same => same ▸ ⟨isBefore, made⟩

end Leads

end Work

namespace Assembly

open Work (Leads)

variable (holds : Assembly → Prop)

theorem leads_fillBlueprint
    (keeps :
      ∀ assembly blueprint stage,
        holds assembly → holds { assembly with blueprint, stage })
    (entries : List (BuildingRule × Attribute)) :
    Leads holds (fillBlueprint entries) fun _ => holds := by
  induction entries with
  | nil =>
      exact .change fun assembly isBefore => keeps assembly _ _ isBefore
  | cons first rest inductionHypothesis =>
      refine .get_bind fun bench isBefore => (Leads.record _ _).bind fun _ => ?_
      refine ((Leads.logged _).onAttribute _).bind fun blueprint => ?_
      refine Leads.bind (.change ?_) fun _ => inductionHypothesis
      rintro _ ⟨rfl, _⟩
      exact keeps _ blueprint _ isBefore

/-- Instantiation makes what the rule makes of the blueprint. -/
theorem leads_instantiate :
    Leads holds instantiate fun _ after =>
      ∃ assembly target,
        holds assembly ∧ assembly.rule.create assembly.blueprint = .ok target ∧
          after = { assembly with target := some target, stage := .instantiated } := by
  refine .get_bind fun bench isBefore => (Leads.logged _).bind fun target => .change ?_
  rintro _ ⟨rfl, _, _, made⟩
  exact ⟨_, target, isBefore, Logged.ofExcept_eq_ok made, rfl⟩

/-- What a rule may look at when it applies an attribute. -/
def contextOf (interpreter : Interpreter) (entry : Attribute) : AttributeContext where
  name := entry.name
  actions := interpreter.actions
  separator := interpreter.settings.separator

/-- An attribute does what the rule does that is found for it, or nothing if it is left out. -/
theorem leads_applyAttribute
    (interpreter : Interpreter)
    (entry : Attribute) :
    Leads holds (applyAttribute interpreter entry) fun _ after =>
      ∃ assembly target,
        holds assembly ∧ assembly.target = some target ∧
          ((∃ rule workpiece journal journal',
              interpreter.vocabulary.resolve target.ancestry entry.name = .found rule ∧
                rule.apply (contextOf interpreter entry) entry.value ⟨target, assembly.onClose⟩
                  journal = .ok workpiece journal' ∧
                after =
                  { assembly with
                    target := some workpiece.target
                    onClose := workpiece.onClose }) ∨
            (interpreter.settings.unknownAttributes = .warn ∧ after = assembly)) := by
  refine Leads.requireTarget.bind fun target => .get_bind ?_
  rintro bench ⟨isBefore, made⟩
  dsimp only
  split
  · rename_i rule found
    refine (Leads.record _ _).bind fun _ => ?_
    refine ((Leads.logged _).onAttribute _).bind fun workpiece => .change ?_
    rintro _ ⟨rfl, journal, journal', ran⟩
    exact ⟨_, target, isBefore, made, .inl ⟨rule, workpiece, journal, journal', found, ran, rfl⟩⟩
  · exact (Leads.fail _).onAttribute _
  · split
    · exact (Leads.fail _).onAttribute _
    · rename_i isLenient
      refine (Leads.record _ _).mono (fun _ same => same) fun _ after same => ?_
      exact ⟨bench.assembly, target, isBefore, made, .inr ⟨isLenient, same⟩⟩

/-- What an attribute keeps is what all rules keep that may be found for it. -/
theorem keeps_applyAttribute
    {holds : Assembly → Prop}
    {interpreter : Interpreter}
    {entry : Attribute}
    (keeps :
      ∀ assembly target rule workpiece journal journal',
        holds assembly → assembly.target = some target →
          interpreter.vocabulary.resolve target.ancestry entry.name = .found rule →
          rule.apply (contextOf interpreter entry) entry.value ⟨target, assembly.onClose⟩
            journal = .ok workpiece journal' →
          holds { assembly with target := some workpiece.target, onClose := workpiece.onClose }) :
    Leads holds (applyAttribute interpreter entry) fun _ => holds := by
  refine (leads_applyAttribute holds interpreter entry).mono (fun _ isBefore => isBefore) ?_
  rintro _ after ⟨assembly, target, isBefore, made, applied | ⟨_, rfl⟩⟩
  · obtain ⟨rule, workpiece, journal, journal', found, ran, rfl⟩ := applied
    exact keeps assembly target rule workpiece journal journal' isBefore made found ran
  · exact isBefore

theorem leads_applyAttributes
    {holds : Assembly → Prop}
    {interpreter : Interpreter}
    (keeps : ∀ entry, Leads holds (applyAttribute interpreter entry) fun _ => holds)
    (entries : List Attribute) :
    Leads holds (applyAttributes interpreter entries) fun _ => holds := by
  induction entries with
  | nil =>
      exact .pure fun _ isBefore => isBefore
  | cons first rest inductionHypothesis =>
      exact (keeps first).bind fun _ => inductionHypothesis

theorem leads_writeCell
    (cell : CellProperties)
    (entries : List (CellRule × Attribute)) :
    Leads holds (writeCell cell entries) fun _ => holds := by
  induction entries generalizing cell with
  | nil =>
      exact .pure fun _ isBefore => isBefore
  | cons first rest inductionHypothesis =>
      refine ((Leads.logged _).onAttribute _).bind fun next => ?_
      exact (inductionHypothesis next).mono (fun _ isBefore => isBefore.1) fun _ _ same => same

theorem leads_configureCell
    (keeps : ∀ assembly cell, holds assembly → holds { assembly with cell })
    (defaults : CellProperties)
    (entries : List (CellRule × Attribute)) :
    Leads holds (configureCell defaults entries) fun _ => holds :=
  (leads_writeCell holds defaults entries).bind fun cell =>
    .change fun assembly isBefore => keeps assembly cell isBefore

/-- Taking in text makes what the rule makes of the target. -/
theorem leads_takeText
    (text : String) :
    Leads holds (takeText text) fun _ after =>
      ∃ assembly target changed journal journal',
        holds assembly ∧ assembly.target = some target ∧
          assembly.rule.takeText text assembly.blueprint.text.isSome target journal =
            .ok changed journal' ∧
          after = { assembly with target := some changed } := by
  refine Leads.requireTarget.bind fun target => .get_bind ?_
  rintro bench ⟨isBefore, made⟩
  refine (Leads.logged _).bind fun changed => .change ?_
  rintro _ ⟨rfl, journal, journal', ran⟩
  exact ⟨_, target, changed, journal, journal', isBefore, made, ran, rfl⟩

/-- The last steps before the children of a tag: its cell is set up and its text taken in. -/
def settle
    (cells : Option CellProperties)
    (entries : List (CellRule × Attribute))
    (text : String) :
    Work Unit := do
  match cells with
  | some defaults => configureCell defaults entries
  | none => pure ()
  if !Text.isBlankText text then
    takeText text

/-- What a target becomes when it takes in a finished tag. -/
def taking (rule : TagRule) (child : ClosedTag) (target : Target) : Except Problem Target :=
  match child.target with
  | .widget widget => rule.takeWidget widget child.cell target
  | .listener listener => takeListener listener target

theorem leads_attach
    (child : ClosedTag) :
    Leads holds (attach child) fun _ after =>
      ∃ assembly target changed,
        holds assembly ∧ assembly.target = some target ∧
          taking assembly.rule child target = .ok changed ∧
          after = { assembly with target := some changed } := by
  refine Leads.requireTarget.bind fun target => .get_bind ?_
  rintro bench ⟨isBefore, made⟩
  refine (Leads.logged _).bind fun changed => .change ?_
  rintro _ ⟨rfl, _, _, ran⟩
  exact ⟨_, target, changed, isBefore, made, Logged.ofExcept_eq_ok ran, rfl⟩

end Assembly

namespace Interpreter

variable (interpreter : Interpreter)

/-- A tag is begun in five steps, each of which says what it leads to. -/
theorem beginTag_eq
    (path : TagPath)
    (rule : TagRule)
    (cells : Option CellProperties)
    (node : Node) :
    interpreter.beginTag path rule cells node =
      (do
        Registration.record .debug ("open " ++ path.render)
        let split :=
          SplitAttributes.ofAttributes interpreter.vocabulary rule.features cells.isSome
            node.attributes
        Registration.work { path, rule } do
          Assembly.fillBlueprint split.building
          Assembly.instantiate
          Assembly.applyAttributes interpreter split.target
          Assembly.settle cells split.cell node.text) := by
  unfold beginTag Assembly.start Assembly.settle
  simp only [bind_assoc, pure_bind]
  cases cells <;> rfl

/-- Builds a tag that is admitted. -/
def buildAdmitted
    (path : TagPath)
    (openIds : List String)
    (cells : Option CellProperties)
    (rule : TagRule)
    (node : Node) :
    Registration ClosedTag := do
  let begun ← interpreter.beginTag path rule cells node
  let filled ←
    interpreter.buildChildren path (openIds ++ begun.id?.toList) begun.childCells? begun
      node.children
  let finished ← Registration.work filled Assembly.finishChildren
  finished.close openIds interpreter.actions

/-- A tag is built if it is admitted. -/
theorem buildTag_eq
    (parent : TagPath)
    (openIds : List String)
    (cells : Option CellProperties)
    (node : Node) :
    interpreter.buildTag parent openIds cells node =
      (do
        let path := parent.child node.name (node.attribute? "id")
        match ← interpreter.admitTag path node with
        | none => return none
        | some rule => do
            let closed ← interpreter.buildAdmitted path openIds cells rule node
            return some closed) := by
  obtain ⟨name, isMacro, attributes, children, text, position⟩ := node
  rw [buildTag]
  refine bind_congr fun admitted => ?_
  cases admitted with
  | none =>
      rfl
  | some rule =>
      simp only [buildAdmitted, bind_assoc]

end Interpreter

end WidgetMarkup
