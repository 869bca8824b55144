import WidgetMarkup.Proofs.Construction.Outcomes

namespace WidgetMarkup

open Markup

/-!
# How tags are begun

Before its children are built, a tag fills in a blueprint, makes a target of it, applies attributes
to the target one after another, and takes in the text inside it. What a tag is begun with is
related to its node here by what these steps make, and a condition on targets that all of them keep
holds of it.
-/

/-- What attributes of blueprints, one after another, make of a blueprint. -/
inductive BlueprintEffects : List (BuildingRule × Attribute) → Blueprint → Blueprint → Prop where
  | nothing (blueprint : Blueprint) : BlueprintEffects [] blueprint blueprint
  | writes
      {rule : BuildingRule}
      {entry : Attribute}
      {entries : List (BuildingRule × Attribute)}
      {before between after : Blueprint}
      (first : rule.apply entry.value before = .ok between)
      (rest : BlueprintEffects entries between after) :
      BlueprintEffects ((rule, entry) :: entries) before after

/-- What attributes, one after another, make of a target; one that is left out makes nothing. -/
inductive AttributeEffects (interpreter : Interpreter) :
    List Attribute → Target → Target → Prop where
  | nothing (target : Target) : AttributeEffects interpreter [] target target
  | skips
      {entry : Attribute}
      {entries : List Attribute}
      {target changed : Target}
      (lenient : interpreter.settings.unknownAttributes = .warn)
      (rest : AttributeEffects interpreter entries target changed) :
      AttributeEffects interpreter (entry :: entries) target changed
  | applies
      {entry : Attribute}
      {entries : List Attribute}
      {target between changed : Target}
      (first :
        AttributeEffect (Assembly.contextOf interpreter entry) entry.value target between)
      (rest : AttributeEffects interpreter entries between changed) :
      AttributeEffects interpreter (entry :: entries) target changed

/-- What a node makes of a target by the text inside it, if there is any. -/
def TagRule.TextEffects (node : Node) (explicit : Bool) (target changed : Target) : Prop :=
  if node.hasText then TextEffect node.text explicit target changed else changed = target

namespace Assembly

open Work (Leads)

theorem leads_fillBlueprint_effects
    (entries : List (BuildingRule × Attribute))
    (assembly : Assembly) :
    Leads (· = assembly) (fillBlueprint entries) fun _ after =>
      ∃ blueprint,
        BlueprintEffects entries assembly.blueprint blueprint ∧
          after = { assembly with blueprint, stage := .blueprintFilled } := by
  induction entries generalizing assembly with
  | nil =>
      refine .change fun _ same => ?_
      exact ⟨_, .nothing _, same ▸ rfl⟩
  | cons first rest inductionHypothesis =>
      refine .get_bind fun bench same => (Leads.record _ _).bind fun _ => ?_
      refine ((Leads.logged _).onAttribute _).bind fun between => Leads.changed.bind fun _ => ?_
      refine .each ?_
      rintro _ ⟨_, ⟨rfl, _, _, ran⟩, rfl⟩
      cases same
      refine (inductionHypothesis _).mono (fun _ same => same) ?_
      rintro _ _ ⟨blueprint, effects, rfl⟩
      exact ⟨blueprint, .writes (Logged.ofExcept_eq_ok ran) effects, rfl⟩

/-- What the attributes of a tag of the language lead to. -/
theorem leads_applyAttributes_effects
    {interpreter : Interpreter}
    (standard : interpreter.vocabulary = .standard)
    (entries : List Attribute)
    (assembly : Assembly)
    {target : Target}
    (made : assembly.target = some target) :
    Leads (· = assembly) (applyAttributes interpreter entries) fun _ after =>
      ∃ changed onClose,
        AttributeEffects interpreter entries target changed ∧
          after = { assembly with target := some changed, onClose } := by
  induction entries generalizing assembly target with
  | nil =>
      refine .pure fun _ same => ⟨target, assembly.onClose, .nothing target, ?_⟩
      rw [same, ← made]
  | cons entry rest inductionHypothesis =>
      refine (leads_applyAttribute _ interpreter entry).bind fun _ => .each ?_
      rintro after ⟨_, _, rfl, isMade, applied | ⟨lenient, rfl⟩⟩
      · cases made.symm.trans isMade
        obtain ⟨rule, workpiece, journal, journal', found, ran, rfl⟩ := applied
        rw [standard] at found
        refine (inductionHypothesis _ rfl).mono (fun _ same => same) ?_
        rintro _ _ ⟨changed, onClose, effects, rfl⟩
        exact ⟨changed, onClose, .applies (.of_resolve_standard found ran) effects, rfl⟩
      · refine (inductionHypothesis _ made).mono (fun _ same => same) ?_
        rintro _ _ ⟨changed, onClose, effects, rfl⟩
        exact ⟨changed, onClose, .skips lenient effects, rfl⟩

/-- Whether a tag of the language has come to a blueprint and a target. -/
structure Has (blueprint : Blueprint) (target : Target) (assembly : Assembly) : Prop where
  isStandard : assembly.rule.IsStandard
  blueprint : assembly.blueprint = blueprint
  target : assembly.target = some target

/-- Whether a tag of the language has made a target of a condition. -/
structure Made (holds : Target → Prop) (assembly : Assembly) : Prop where
  isStandard : assembly.rule.IsStandard
  target : ∃ target, assembly.target = some target ∧ holds target

theorem leads_takeText_effects
    (node : Node)
    (blueprint : Blueprint)
    (target : Target) :
    Leads (Has blueprint target) (if node.hasText then takeText node.text else pure ())
      fun _ => Made (TagRule.TextEffects node blueprint.text.isSome target) := by
  unfold TagRule.TextEffects
  cases node.hasText with
  | false =>
      exact .pure fun assembly has => ⟨has.isStandard, target, has.target, rfl⟩
  | true =>
      refine (leads_takeText (Has blueprint target) node.text).mono (fun _ has => has) ?_
      rintro _ _ ⟨assembly, _, changed, _, _, ⟨isStandard, rfl, isMade⟩, made, ran, rfl⟩
      cases made.symm.trans isMade
      exact ⟨isStandard, changed, rfl, .of_takeText isStandard ran⟩

/-- What the last steps before the children lead to. -/
theorem leads_settle_effects
    (cells : Option CellProperties)
    (entries : List (CellRule × Attribute))
    (node : Node)
    (blueprint : Blueprint)
    (target : Target) :
    Leads (Has blueprint target) (settle cells entries node.text)
      fun _ => Made (TagRule.TextEffects node blueprint.text.isSome target) := by
  have takes := leads_takeText_effects node blueprint target
  cases cells with
  | none =>
      exact takes
  | some defaults =>
      exact (leads_configureCell (Has blueprint target)
        (fun _ _ has => ⟨has.isStandard, has.blueprint, has.target⟩) defaults entries).bind
        fun _ => takes

end Assembly

namespace Interpreter

/-- Whether a target is what a node, by its rule and in a table or not, is begun with. -/
def Begins
    (interpreter : Interpreter)
    (rule : TagRule)
    (inTable : Bool)
    (node : Node)
    (target : Target) :
    Prop :=
  let split :=
    SplitAttributes.ofAttributes interpreter.vocabulary rule.features inTable node.attributes
  ∃ blueprint made attributed,
    BlueprintEffects split.building {} blueprint ∧
      rule.create blueprint = .ok made ∧
      AttributeEffects interpreter split.target made attributed ∧
      TagRule.TextEffects node blueprint.text.isSome attributed target

variable {interpreter : Interpreter}

/-- A tag that is begun has registered nothing, and its target is what its node is begun with. -/
theorem beginTag_eq_ok
    (standard : interpreter.vocabulary = .standard)
    {path : TagPath}
    {rule : TagRule}
    {cells : Option CellProperties}
    {node : Node}
    {begun : Assembly}
    {register register' : Register}
    (isStandard : rule.IsStandard)
    (ran : interpreter.beginTag path rule cells node register = .ok begun register') :
    register'.ids = register.ids ∧ begun.Made (interpreter.Begins rule cells.isSome node) := by
  rw [beginTag_eq] at ran
  obtain ⟨_, opened, recorded, ran⟩ := bind_eq_ok ran
  have sameIds : opened.ids = register.ids := by
    cases recorded
    rfl
  rw [← sameIds]
  refine Registration.work_eq_ok (· = { path, rule })
    (?_ : Work.Leads _ _ fun _ => Assembly.Made _) ran rfl
  refine (Assembly.leads_fillBlueprint_effects _ _).bind fun _ => .each ?_
  rintro _ ⟨blueprint, written, rfl⟩
  refine (Assembly.leads_instantiate _).bind fun _ => .each ?_
  rintro _ ⟨_, made, rfl, created, rfl⟩
  refine (Assembly.leads_applyAttributes_effects standard _ _ rfl).bind fun _ => .each ?_
  rintro _ ⟨attributed, onClose, applied, rfl⟩
  refine (Assembly.leads_settle_effects cells _ node blueprint attributed).mono ?_ ?_
  · rintro _ rfl
    exact ⟨isStandard, rfl, rfl⟩
  · rintro _ _ ⟨isStandard, target, isTarget, texted⟩
    exact ⟨isStandard, target, isTarget, blueprint, made, attributed, written, created, applied,
      texted⟩

section Targets

/-- Whether a condition on targets holds of those that the tags of the language make, and is kept
by what attributes and text make of them. -/
structure KeepsTargets (interpreter : Interpreter) (holds : Target → Prop) : Prop where
  create :
    ∀ {rule : TagRule} {blueprint target},
      rule.IsStandard → rule.create blueprint = .ok target → holds target
  apply :
    ∀ {entry target changed},
      AttributeEffect (Assembly.contextOf interpreter entry) entry.value target changed →
        holds target → holds changed
  takeText :
    ∀ {text explicit target changed},
      TagRule.TextEffect text explicit target changed → holds target → holds changed

variable {holds : Target → Prop}

theorem KeepsTargets.attributes
    (keeps : interpreter.KeepsTargets holds)
    {entries : List Attribute}
    {target changed : Target}
    (effects : AttributeEffects interpreter entries target changed)
    (before : holds target) :
    holds changed := by
  induction effects with
  | nothing target =>
      exact before
  | skips _ _ inductionHypothesis =>
      exact inductionHypothesis before
  | applies first _ inductionHypothesis =>
      exact inductionHypothesis (keeps.apply first before)

/-- What the rules make and keep holds of the target that a node is begun with. -/
theorem Begins.keeps
    (keeps : interpreter.KeepsTargets holds)
    {rule : TagRule}
    {inTable : Bool}
    {node : Node}
    {target : Target}
    (isStandard : rule.IsStandard)
    (begins : interpreter.Begins rule inTable node target) :
    holds target := by
  obtain ⟨blueprint, made, attributed, _, created, applied, texted⟩ := begins
  have isKept := keeps.attributes applied (keeps.create isStandard created)
  unfold TagRule.TextEffects at texted
  split at texted
  · exact keeps.takeText texted isKept
  · exact texted ▸ isKept

end Targets

end Interpreter

end WidgetMarkup
