import WidgetMarkup.Proofs.Construction.Successes
import WidgetMarkup.Proofs.Vocabulary.NamelessRules

namespace WidgetMarkup

open Markup
open Work (Leads)

/-!
# Listeners have no ids

Ids belong to widgets. An attribute called `id` is known, but listeners do not take it, so the tag
of a listener that has one is never built, however lenient the interpreter is.
-/

/-- An attribute that is neither for the blueprint nor for a cell is given to the target. -/
theorem SplitAttributes.mem_target_ofAttributes
    (vocabulary : Vocabulary)
    (features : List Feature)
    (inTable : Bool)
    {attributes : List Attribute}
    {entry : Attribute}
    (listed : entry ∈ attributes)
    (noBuilding : vocabulary.building? entry.name features = none)
    (noCell : vocabulary.cell? entry.name = none) :
    entry ∈ (ofAttributes vocabulary features inTable attributes).target := by
  induction attributes with
  | nil =>
      cases listed
  | cons first rest inductionHypothesis =>
      rw [ofAttributes]
      rcases List.mem_cons.1 listed with rfl | listed
      · simp only [noBuilding, noCell, ite_self, List.mem_cons, true_or]
      · have isGiven := inductionHypothesis listed
        split
        · exact isGiven
        · split
          · exact isGiven
          · exact .tail _ isGiven

/-- Whether a target is a listener. -/
def Target.isListener : Target → Bool
  | .widget _ => false
  | .listener _ => true

section Effects

variable {target changed : Target}

/-- An attribute makes no widget of a listener and no listener of a widget. -/
theorem AttributeEffect.isListener
    {context : AttributeContext}
    {raw : String}
    (effect : AttributeEffect context raw target changed) :
    changed.isListener = target.isListener := by
  cases effect <;> rfl

theorem AttributeEffects.isListener
    {interpreter : Interpreter}
    {entries : List Attribute}
    (effects : AttributeEffects interpreter entries target changed) :
    changed.isListener = target.isListener := by
  induction effects with
  | nothing target =>
      rfl
  | skips _ _ inductionHypothesis =>
      exact inductionHypothesis
  | applies first _ inductionHypothesis =>
      exact inductionHypothesis.trans first.isListener

theorem TagRule.TextEffects.isListener
    {node : Node}
    {explicit : Bool}
    (effects : TextEffects node explicit target changed) :
    changed.isListener = target.isListener := by
  unfold TextEffects at effects
  split at effects
  · cases effects <;> rfl
  · exact congrArg Target.isListener effects

theorem TagRule.TakingEffect.isListener
    {taken : Target}
    (effect : TakingEffect taken target changed) :
    changed.isListener = target.isListener := by
  cases effect <;> rfl

theorem Assembly.ClosingEffect.isListener
    {actions : Actions}
    {openIds ids ids' : List String}
    (effect : ClosingEffect actions openIds ids ids' target changed) :
    changed.isListener = target.isListener := by
  cases effect <;> rfl

/-- Only the tags of events are begun with a listener. -/
theorem Interpreter.Begins.exists_event
    {interpreter : Interpreter}
    {rule : TagRule}
    {inTable : Bool}
    {node : Node}
    (isStandard : rule.IsStandard)
    (begins : interpreter.Begins rule inTable node target)
    (isListener : target.isListener = true) :
    ∃ event, rule = .ofEvent event := by
  obtain ⟨blueprint, made, attributed, _, created, applied, texted⟩ := begins
  have isMade : made.isListener = true :=
    applied.isListener.symm.trans (texted.isListener.symm.trans isListener)
  cases isStandard with
  | ofKind kind =>
      obtain ⟨_, _, rfl⟩ := TagRule.createOfKind_eq_ok created
      cases isMade
  | ofEvent event =>
      exact ⟨event, rfl⟩

end Effects

/-- A tag that is built to a listener is one of an event. -/
theorem Interpreter.buildSteps_event
    {interpreter : Interpreter} :
    interpreter.BuildSteps
      (fun _ node _ built _ =>
        ∀ target, built = some target → target.isListener = true →
          ∃ event, interpreter.vocabulary.tag? node.name = some (.ofEvent event))
      (fun _ target _ _ filled _ => filled.isListener = target.isListener) where
  leftOut _ := nofun
  closes found isStandard begins inside closing := by
    rintro _ ⟨⟩ isListener
    obtain ⟨event, rfl⟩ := begins.exists_event isStandard
      (inside.symm.trans (closing.isListener.symm.trans isListener))
    exact ⟨event, found⟩
  nil _ _ _ := rfl
  skips _ rest := rest
  takes _ taking rest := rest.trans taking.isListener

/-- No attribute of blueprints that listeners have, and none of cells, is called `id`; nor does a
listener take one of that name, which is known all the same. -/
theorem Vocabulary.id_standard :
    standard.building? "id" [.base] = none ∧
      standard.cell? "id" = none ∧
      standard.resolve [.listener] "id" = .unsupported := by
  refine ⟨Option.isNone_iff_eq_none.1 (by decide +kernel),
    Option.isNone_iff_eq_none.1 (by decide +kernel), ?_⟩
  have isUnsupported :
      (match standard.resolve [.listener] "id" with
        | .unsupported => true
        | .found _ | .unknown => false) = true := by
    decide +kernel
  cases resolved : standard.resolve [.listener] "id" with
  | unsupported =>
      rfl
  | found rule | unknown =>
      rw [resolved] at isUnsupported
      cases isUnsupported

namespace Assembly

/-- An attribute that a target does not take is never applied to it. -/
theorem not_applyAttribute_of_unsupported
    {interpreter : Interpreter}
    {entry : Attribute}
    {target : Target}
    (unsupported : interpreter.vocabulary.resolve target.ancestry entry.name = .unsupported) :
    Leads (fun assembly => assembly.target = some target) (applyAttribute interpreter entry)
      fun _ _ => False := by
  refine Leads.requireTarget.bind fun other => .get_bind ?_
  rintro bench ⟨made, isMade⟩
  cases made.symm.trans isMade
  dsimp only
  rw [unsupported]
  exact (Leads.fail _).onAttribute _

/-- Whether a tag has made a listener. -/
def IsListener (assembly : Assembly) : Prop :=
  ∃ listener, assembly.target = some (.listener listener)

/-- A listener takes no id, and stays a listener when it takes another attribute. -/
theorem leads_applyAttribute_listener
    {interpreter : Interpreter}
    (standard : interpreter.vocabulary = .standard)
    (entry : Attribute) :
    Leads IsListener (applyAttribute interpreter entry)
      fun _ after => entry.isNamed "id" = false ∧ after.IsListener := by
  refine .each ?_
  rintro assembly ⟨listener, made⟩
  cases isId : entry.isNamed "id" with
  | true =>
      have unsupported :
          interpreter.vocabulary.resolve (Target.listener listener).ancestry entry.name =
            .unsupported := by
        rw [standard, Target.ancestry, Vocabulary.resolve_congr (Text.sameName_iff.1 isId)]
        exact Vocabulary.id_standard.2.2
      exact (not_applyAttribute_of_unsupported unsupported).mono (fun _ same => same ▸ made)
        fun _ _ => False.elim
  | false =>
      refine (leads_applyAttribute _ interpreter entry).mono (fun _ same => same) ?_
      rintro _ after ⟨_, target, rfl, isMade, applied | ⟨_, rfl⟩⟩
      · cases made.symm.trans isMade
        obtain ⟨rule, ⟨changed, _⟩, _, _, found, ran, rfl⟩ := applied
        rw [standard] at found
        cases AttributeEffect.of_resolve_standard found ran with
        | fills => exact ⟨rfl, _, rfl⟩
      · exact ⟨rfl, listener, made⟩

/-- None of the attributes that a listener has taken is an id. -/
theorem leads_applyAttributes_listener
    {interpreter : Interpreter}
    (standard : interpreter.vocabulary = .standard)
    (entries : List Attribute) :
    Leads IsListener (applyAttributes interpreter entries)
      fun _ _ => ∀ entry ∈ entries, entry.isNamed "id" = false := by
  induction entries with
  | nil =>
      exact .pure fun _ _ => nofun
  | cons first rest inductionHypothesis =>
      refine (leads_applyAttribute_listener standard first).bind fun _ => .each ?_
      rintro assembly ⟨noId, isListener⟩
      refine inductionHypothesis.mono (fun _ same => same ▸ isListener) fun _ _ noIds => ?_
      exact List.forall_mem_cons.2 ⟨noId, noIds⟩

/-- A listener whose tag is begun has no id. -/
theorem attribute?_id_of_beginTag
    {interpreter : Interpreter}
    (standard : interpreter.vocabulary = .standard)
    {path : TagPath}
    {event : ListenerEvent}
    {cells : Option CellProperties}
    {node : Node}
    {begun : Assembly}
    {register register' : Register}
    (ran :
      interpreter.beginTag path (.ofEvent event) cells node register = .ok begun register') :
    node.attribute? "id" = none := by
  let split :=
    SplitAttributes.ofAttributes interpreter.vocabulary (TagRule.ofEvent event).features
      cells.isSome node.attributes
  have noIds : ∀ entry ∈ split.target, entry.isNamed "id" = false := by
    rw [Interpreter.beginTag_eq] at ran
    obtain ⟨_, opened, _, ran⟩ := bind_eq_ok ran
    refine (Registration.work_eq_ok (fun assembly => assembly.rule = .ofEvent event)
      (?_ : Leads _ _ fun _ _ => ∀ entry ∈ split.target, entry.isNamed "id" = false) ran rfl).2
    refine (leads_fillBlueprint _ (fun _ _ _ same => same) _).bind fun _ => ?_
    refine (leads_instantiate _).bind fun _ => ?_
    refine Leads.bind ((leads_applyAttributes_listener standard _).mono ?_ fun _ _ noIds => noIds)
      fun _ _ _ _ noIds _ => noIds
    rintro _ ⟨assembly, target, isEvent, created, rfl⟩
    rw [isEvent] at created
    cases created
    exact ⟨{ event }, rfl⟩
  unfold Node.attribute? Attribute.lookup?
  rw [Option.map_eq_none_iff, List.find?_eq_none]
  intro entry listed isId
  have same := Text.sameName_iff.1 isId
  obtain ⟨noBuilding, noCell, _⟩ := Vocabulary.id_standard
  have isGiven : entry ∈ split.target := by
    refine SplitAttributes.mem_target_ofAttributes _ _ _ listed ?_ ?_ <;> rw [standard]
    · rw [Vocabulary.building?_congr same]
      exact noBuilding
    · rw [Vocabulary.cell?_congr same]
      exact noCell
  cases isId.symm.trans (noIds entry isGiven)

end Assembly

/-- A tag that is built to a listener has no id. -/
theorem Interpreter.attribute?_id_of_buildTag
    {interpreter : Interpreter}
    (standard : interpreter.vocabulary = .standard)
    {parent : TagPath}
    {openIds : List String}
    {cells : Option CellProperties}
    {node : Node}
    {closed : ClosedTag}
    {register register' : Register}
    (ran :
      interpreter.buildTag parent openIds cells node register = .ok (some closed) register')
    (isListener : closed.target.isListener = true) :
    node.attribute? "id" = none := by
  obtain ⟨event, found⟩ :=
    buildSteps_event.tag_of_buildTag standard _ _ _ _ _ _ _ ran closed.target rfl isListener
  rw [buildTag_eq] at ran
  obtain ⟨admitted, between, admitting, ran⟩ := bind_eq_ok ran
  cases found.symm.trans (admitTag_eq_ok admitting).2.1
  obtain ⟨_, _, building, _⟩ := bind_eq_ok ran
  obtain ⟨begun, _, began, _⟩ := bind_eq_ok building
  exact Assembly.attribute?_id_of_beginTag standard began

end WidgetMarkup
