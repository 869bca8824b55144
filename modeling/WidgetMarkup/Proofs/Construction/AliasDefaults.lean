import WidgetMarkup.Proofs.Construction.FailurePlaces
import WidgetMarkup.Proofs.Construction.OmittedAttributes
import WidgetMarkup.Proofs.Construction.Successes
import WidgetMarkup.Proofs.Vocabulary.StyleTables

namespace WidgetMarkup

open Markup

/-!
# Defaults under other names

A default counts for a tag unless the tag has an attribute of its own under the name of the
default. It stands behind the attributes that the tag has of its own. So, where it has another name
for what one of these writes, its value replaces theirs: the tag is built as if it did not have
them.
-/

/-- Whether one step of the work on a tag succeeds wherever another one does, and ends in the same
way. -/
def Work.Rejoins (bench : Bench) (step step' : Work Unit) : Prop :=
  ∀ after, step bench = .ok () after → ∃ after', step' bench = .ok () after' ∧ after.Parallel after'

namespace Work.Rejoins

variable {bench : Bench} {step step' next : Work Unit}

theorem bind
    (rejoins : Work.Rejoins bench step step')
    (parallel : Work.AreParallel Eq next next) :
    Work.Rejoins bench (step >>= fun _ => next) (step' >>= fun _ => next) := by
  intro after ran
  obtain ⟨_, between, first, rest⟩ := bind_eq_ok ran
  obtain ⟨between', first', related⟩ := rejoins between first
  obtain ⟨_, after', rest', rfl, related'⟩ := parallel.of_ok related rest
  exact ⟨after', (bind_of_ok first').trans rest', related'⟩

theorem after
    {first : Work Unit}
    (rejoins : ∀ between, first bench = .ok () between → Work.Rejoins between step step') :
    Work.Rejoins bench (first >>= fun _ => step) (first >>= fun _ => step') := by
  intro after ran
  obtain ⟨_, between, began, rest⟩ := bind_eq_ok ran
  obtain ⟨after', rest', related⟩ := rejoins between began after rest
  exact ⟨after', (bind_of_ok began).trans rest', related⟩

end Work.Rejoins

/-- Runs that differ in their log only are related as runs on the same tag are. -/
theorem Bench.SameCalls.parallel
    {bench bench' : Bench}
    (same : bench.SameCalls bench')
    (isStandard : bench.assembly.rule.IsStandard) :
    bench.Parallel bench' := by
  obtain ⟨assembly, journal⟩ := bench
  obtain ⟨_, journal'⟩ := bench'
  obtain ⟨rfl, same⟩ := same
  exact ⟨.mk isStandard rfl, same⟩

/-- Whether all targets that a rule makes have an ancestry. -/
def TagRule.Makes (rule : TagRule) (ancestry : List TargetKey) : Prop :=
  ∀ blueprint target, rule.create blueprint = .ok target → target.ancestry = ancestry

/-- All targets that a rule of the language makes have the same ancestry. -/
theorem TagRule.IsStandard.exists_makes
    {rule : TagRule}
    (isStandard : rule.IsStandard) :
    ∃ ancestry, rule.Makes ancestry := by
  cases isStandard with
  | ofKind kind =>
      refine ⟨kind.ancestry, fun blueprint target created => ?_⟩
      obtain ⟨_, _, rfl⟩ := createOfKind_eq_ok created
      rfl
  | ofEvent event =>
      refine ⟨[.listener], ?_⟩
      rintro _ _ ⟨⟩
      rfl

namespace Interpreter

open Work (AreParallel)

variable
  {interpreter : Interpreter}
  {rule : TagRule}
  {ancestry : List TargetKey}
  {first second later : List Attribute}
  {entry : Attribute}

/-- The steps that a tag is begun with. -/
def openingSteps
    (interpreter : Interpreter)
    (rule : TagRule)
    (cells : Option CellProperties)
    (node : Node) :
    Work Unit := do
  let split :=
    SplitAttributes.ofAttributes interpreter.vocabulary rule.features cells.isSome node.attributes
  Assembly.fillBlueprint split.building
  Assembly.instantiate
  Assembly.applyAttributes interpreter split.target
  Assembly.settle cells split.cell node.text

theorem parallel_applyAttributes_self
    (standard : interpreter.vocabulary = .standard)
    (entries : List Attribute) :
    AreParallel Eq (Assembly.applyAttributes interpreter entries)
      (Assembly.applyAttributes interpreter entries) :=
  Assembly.parallel_applyAttributes standard (.refl true entries)

theorem parallel_settle_self
    (cells : Option CellProperties)
    (entries : List (CellRule × Attribute))
    (text : String) :
    AreParallel Eq (Assembly.settle cells entries text) (Assembly.settle cells entries text) := by
  have same : List.Forall₂ (AreRuledAlike true) entries entries :=
    List.forall₂_same.2 fun _ _ => ⟨rfl, rfl, .inl rfl⟩
  exact Assembly.parallel_settle cells same text

/-- Attributes of blueprints whose value is replaced by a later one make no difference. -/
theorem rejoins_omitting_building
    (standard : interpreter.vocabulary = .standard)
    (isStandard : rule.IsStandard)
    {cells : Option CellProperties}
    {own : BuildingRule}
    (found : interpreter.vocabulary.building? entry.name rule.features = some own)
    (omits :
      Omits
        (fun entry =>
          interpreter.vocabulary.processor? rule.features cells.isSome ancestry entry.name =
            some (.building own))
        first second)
    (node : Node)
    (path : TagPath)
    (journal : Journal) :
    Work.Rejoins ⟨{ path, rule }, journal⟩
      (interpreter.openingSteps rule cells { node with attributes := first ++ entry :: later })
      (interpreter.openingSteps rule cells { node with attributes := second ++ entry :: later }) := by
  obtain ⟨building, cell, target⟩ := SplitAttributes.omits_building omits
  unfold openingSteps
  simp only [SplitAttributes.ofAttributes_append, cell, target, SplitAttributes.ofAttributes, found]
  have ruled :
      ∀ ruled ∈ (SplitAttributes.ofAttributes interpreter.vocabulary rule.features cells.isSome
          first).building,
        ∃ listed ∈ StandardAttribute.building, listed.2 = ruled.1 := by
    intro ruled member
    obtain ⟨name, isFound⟩ := (SplitAttributes.exists_of_mem _ _ _ _).1 ruled member
    obtain ⟨_, listed, isListed, _, same⟩ :=
      Vocabulary.exists_of_building?_standard (standard ▸ isFound)
    exact ⟨listed, isListed, same⟩
  have overwrites : own.Overwrites := by
    obtain ⟨_, listed, isListed, _, rfl⟩ :=
      Vocabulary.exists_of_building?_standard (standard ▸ found)
    exact StandardAttribute.overwrites_of_mem_building listed isListed
  refine Work.Rejoins.bind ?_ ?_
  · intro after filled
    obtain ⟨blueprint, effects, _⟩ := Assembly.leads_fillBlueprint_effects _ _ _ _ _ rfl filled
    obtain ⟨journal', ran, same⟩ := Assembly.exists_fillBlueprint effects ⟨_, journal⟩ rfl
    cases filled.symm.trans ran
    obtain ⟨journal'', ran', same'⟩ :=
      Assembly.exists_fillBlueprint
        (effects.omitting overwrites ruled building fun _ => rfl) ⟨_, journal⟩ rfl
    exact ⟨_, ran', .mk isStandard rfl, same.symm.trans same'⟩
  · refine .bind_eq Assembly.parallel_instantiate fun _ => ?_
    refine .bind_eq (parallel_applyAttributes_self standard _) fun _ => ?_
    exact parallel_settle_self cells _ _

/-- Attributes of targets whose value is replaced by a later one make no difference. -/
theorem rejoins_omitting_target
    (standard : interpreter.vocabulary = .standard)
    (isStandard : rule.IsStandard)
    (makes : rule.Makes ancestry)
    {cells : Option CellProperties}
    {own : AttributeRule}
    (overwrites : own.Overwrites)
    (found :
      interpreter.vocabulary.processor? rule.features cells.isSome ancestry entry.name =
        some (.target own))
    (omits :
      Omits
        (fun entry =>
          interpreter.vocabulary.processor? rule.features cells.isSome ancestry entry.name =
            some (.target own))
        first second)
    (runsNothing : ∀ entry ∈ first, entry.isCreating = false)
    (node : Node)
    (path : TagPath)
    (journal : Journal) :
    Work.Rejoins ⟨{ path, rule }, journal⟩
      (interpreter.openingSteps rule cells { node with attributes := first ++ entry :: later })
      (interpreter.openingSteps rule cells { node with attributes := second ++ entry :: later }) := by
  let split := SplitAttributes.ofAttributes interpreter.vocabulary rule.features cells.isSome
  obtain ⟨target, building, cell⟩ := SplitAttributes.omits_target omits
  obtain ⟨noBuilding, noCell, resolved⟩ := Vocabulary.processor?_eq_target_iff.1 found
  have runsNothing : ∀ entry ∈ (split first).target, entry.isCreating = false :=
    fun entry member => runsNothing entry
      ((SplitAttributes.mem_of_mem_ofAttributes _ _ _ first).2.2 entry member)
  unfold openingSteps
  simp only [SplitAttributes.ofAttributes_append, building, cell, SplitAttributes.ofAttributes,
    noBuilding, noCell]
  rw [Assembly.applyAttributes_append_cons (split first).target,
    Assembly.applyAttributes_append_cons (split second).target]
  simp only [bind_assoc]
  refine .after fun filled fills => .after fun made instantiates => .bind ?_ ?_
  · obtain ⟨blueprint, _, isFilled⟩ := Assembly.leads_fillBlueprint_effects _ _ _ _ _ rfl fills
    obtain ⟨_, created, rfl, creates, isMade⟩ :=
      Assembly.leads_instantiate (· = filled.assembly) _ _ _ rfl instantiates
    rw [isFilled] at creates isMade
    have isOfAncestry : created.ancestry = ancestry := makes blueprint created creates
    obtain ⟨assembly, _⟩ := made
    cases isMade
    obtain ⟨isOfWidgets, isProperty, yields⟩ := overwrites
    cases created with
    | listener listener =>
        cases isOfAncestry
        have isKey := (Vocabulary.exists_of_resolve_standard (standard ▸ resolved)).1
        exact absurd (List.mem_singleton.1 isKey) isOfWidgets
    | widget widget =>
        intro after ran
        obtain ⟨after', ran', same⟩ :=
          Assembly.exists_applyAttributes_omitting standard isProperty yields resolved target
            runsNothing (.mk rfl isOfAncestry ⟨rfl, rfl, fun _ => rfl⟩ rfl) ran
        have keepsRule :
            Work.Leads (fun assembly => assembly.rule.IsStandard)
              (Assembly.applyAttributes interpreter ((split first).target ++ [entry]))
              fun _ assembly => assembly.rule.IsStandard :=
          Assembly.leads_applyAttributes (fun entry => Assembly.keeps_applyAttribute
            fun _ _ _ _ _ _ isStandard _ _ _ => isStandard) _
        exact ⟨after', ran', same.parallel (keepsRule _ _ _ isStandard ran)⟩
  · refine .bind_eq (parallel_applyAttributes_self standard _) fun _ => ?_
    exact parallel_settle_self cells _ _

/-- Tags whose opening steps end in the same way are begun in the same way. -/
theorem exists_beginTag_of_rejoins
    {path : TagPath}
    {cells : Option CellProperties}
    {node node' : Node}
    (rejoins :
      ∀ journal,
        Work.Rejoins ⟨{ path, rule }, journal⟩ (interpreter.openingSteps rule cells node)
          (interpreter.openingSteps rule cells node'))
    {register register' : Register}
    {begun : Assembly}
    (ran : interpreter.beginTag path rule cells node register = .ok begun register') :
    ∃ begun' register'',
      interpreter.beginTag path rule cells node' register = .ok begun' register'' ∧
        begun.IsMoved begun' ∧ register'.SameCalls register'' := by
  rw [beginTag_eq] at ran ⊢
  obtain ⟨_, opened, recorded, ran⟩ := bind_eq_ok ran
  rw [bind_of_ok recorded]
  change Registration.work _ (interpreter.openingSteps rule cells node) opened = _ at ran
  change ∃ begun' register'',
    Registration.work _ (interpreter.openingSteps rule cells node') opened =
        .ok begun' register'' ∧ _
  unfold Registration.work at ran ⊢
  cases steps : interpreter.openingSteps rule cells node ⟨{ path, rule }, opened.journal⟩ with
  | ok _ bench =>
      rw [steps] at ran
      cases ran
      obtain ⟨bench', steps', related⟩ := rejoins opened.journal bench steps
      rw [steps']
      exact ⟨_, _, rfl, related.assembly, rfl, related.journal⟩
  | error problem bench =>
      rw [steps] at ran
      cases ran

/-- The steps from a tag that has been begun to its end. -/
def closingSteps
    (interpreter : Interpreter)
    (path : TagPath)
    (openIds : List String)
    (begun : Assembly)
    (children : List Node) :
    Registration ClosedTag := do
  let filled ←
    interpreter.buildChildren path (openIds ++ begun.id?.toList) begun.childCells? begun children
  let finished ← Registration.work filled Assembly.finishChildren
  finished.close openIds interpreter.actions

theorem parallel_closingSteps
    (standard : interpreter.vocabulary = .standard)
    (path : TagPath)
    (openIds : List String)
    {begun begun' : Assembly}
    (isMoved : begun.IsMoved begun')
    (children : List Node) :
    Registration.AreParallel Eq (interpreter.closingSteps path openIds begun children)
      (interpreter.closingSteps path openIds begun' children) := by
  unfold closingSteps
  rw [isMoved.id?_eq, isMoved.childCells?_eq]
  have same : Node.AreRespellings (fun _ => true) children children := .refl children
  refine .bind (parallel_buildChildren standard rfl _ _ isMoved same) fun _ _ isMoved => ?_
  have finishes : AreParallel Eq Assembly.finishChildren Assembly.finishChildren :=
    .change (fun _ => rfl) fun _ _ => rfl
  refine .bind (Registration.AreParallel.work isMoved finishes) fun _ _ isMoved => ?_
  exact Assembly.parallel_close isMoved openIds _

/-- Whether a tag, in a table or not, is built as another one wherever that is built. -/
def BuildsAs (interpreter : Interpreter) (inTable : Bool) (node node' : Node) : Prop :=
  ∀ parent openIds cells register closed register',
    cells.isSome = inTable →
      interpreter.buildTag parent openIds cells node register = .ok closed register' →
        ∃ register'',
          interpreter.buildTag parent openIds cells node' register = .ok closed register'' ∧
            register'.SameCalls register''

/-- Tags that differ in their attributes only are built in the same way if they are begun so. -/
theorem buildsAs_of_rejoins
    (standard : interpreter.vocabulary = .standard)
    {node : Node}
    {attributes attributes' : List Attribute}
    (isTag : interpreter.vocabulary.tag? node.name = some rule)
    (sameId : Attribute.lookup? "id" attributes' = Attribute.lookup? "id" attributes)
    {inTable : Bool}
    (rejoins :
      ∀ (cells : Option CellProperties) path journal,
        cells.isSome = inTable →
          Work.Rejoins ⟨{ path, rule }, journal⟩
            (interpreter.openingSteps rule cells { node with attributes })
            (interpreter.openingSteps rule cells { node with attributes := attributes' })) :
    interpreter.BuildsAs inTable { node with attributes }
      { node with attributes := attributes' } := by
  intro parent openIds cells register closed register' inside ran
  rw [buildTag_eq] at ran ⊢
  simp only [Node.attribute?, sameId] at ran ⊢
  generalize parent.child node.name (Attribute.lookup? "id" attributes) = path at ran ⊢
  obtain ⟨admitted, between, admits, ran⟩ := bind_eq_ok ran
  have admits' :
      interpreter.admitTag path { node with attributes := attributes' } register =
        .ok admitted between :=
    admits
  rw [bind_of_ok admits']
  obtain ⟨_, isAdmitted, _⟩ := admitTag_eq_ok admits
  cases isTag.symm.trans isAdmitted
  obtain ⟨finished, last, built, ⟨⟩⟩ := bind_eq_ok ran
  obtain ⟨begun, opened, begins, ran⟩ := bind_eq_ok built
  obtain ⟨begun', opened', begins', isMoved, related⟩ :=
    exists_beginTag_of_rejoins (rejoins cells path · inside) begins
  obtain ⟨_, register'', ran', rfl, same⟩ :=
    (parallel_closingSteps standard path openIds isMoved node.children).of_ok related ran
  have built' :
      interpreter.buildAdmitted path openIds cells rule { node with attributes := attributes' }
        between = .ok finished register'' :=
    (bind_of_ok begins').trans ran'
  exact ⟨register'', bind_of_ok built', same⟩

theorem BuildsAs.refl
    (inTable : Bool)
    (node : Node) :
    interpreter.BuildsAs inTable node node :=
  fun _ _ _ _ _ register' _ ran => ⟨register', ran, rfl, rfl⟩

/-- Whether an attribute has one of the names of a processor, and is given to it on tags of a rule,
in a table or not. -/
def GivesTo
    (interpreter : Interpreter)
    (rule : TagRule)
    (inTable : Bool)
    (ancestry : List TargetKey)
    (names : List String)
    (processor : Processor)
    (entry : Attribute) :
    Prop :=
  Declaration.lists names entry.name = true ∧
    interpreter.vocabulary.processor? rule.features inTable ancestry entry.name = some processor

/-- A name that is listed where another one is not is another name. -/
theorem isNamed_of_lists
    {names : List String}
    {name : String}
    (unlisted : Declaration.lists names name = false)
    (listed : Declaration.lists names entry.name = true) :
    entry.isNamed name = false := by
  refine Bool.eq_false_iff.2 fun isNamed => ?_
  rw [Declaration.lists_congr isNamed, unlisted] at listed
  cases listed

/-- Whether a tag with an attribute behind its own is built as if it had none, or less, of its own
attributes that are given to a processor; for a processor of finished targets only where no action
is run at once before that attribute. -/
def CountsForNothing
    (interpreter : Interpreter)
    (rule : TagRule)
    (inTable : Bool)
    (ancestry : List TargetKey)
    (names : List String)
    (processor : Processor)
    (node : Node)
    (earlier : List Attribute)
    (entry : Attribute)
    (later : List Attribute) :
    Prop :=
  ∀ others,
    Omits (interpreter.GivesTo rule inTable ancestry names processor) node.attributes others →
      (processor.isOfTargets = true →
        ∀ own ∈ node.attributes ++ earlier, own.isCreating = false) →
        interpreter.BuildsAs inTable
          { node with attributes := node.attributes ++ earlier ++ entry :: later }
          { node with attributes := others ++ earlier ++ entry :: later }

section Processors

variable
  {node : Node}
  {inTable : Bool}
  {names : List String}
  {earlier : List Attribute}

/-- A processor of a single name is given nothing by attributes of other names. -/
theorem countsForNothing_of_single
    {processor : Processor}
    {name : String}
    (given : interpreter.GivesTo rule inTable ancestry [name] processor entry)
    (isLacking : Attribute.isPresent entry.name node.attributes = false) :
    interpreter.CountsForNothing rule inTable ancestry [name] processor node earlier entry later := by
  intro others omits _
  have none : ∀ own ∈ node.attributes,
      ¬ interpreter.GivesTo rule inTable ancestry [name] processor own := by
    rintro own member ⟨named, _⟩
    have sameName : Text.sameName own.name entry.name = true := by
      simp only [GivesTo, Declaration.lists, List.any_cons, List.any_nil, Bool.or_false] at given named
      rw [Text.sameName_iff] at given named ⊢
      exact named.symm.trans given.1
    rw [Attribute.isPresent, List.any_eq_false] at isLacking
    exact isLacking own member sameName
  rw [omits.eq_of_forall_not none]
  exact .refl inTable _

/-- The value of a default for a blueprint replaces those of attributes under other names. -/
theorem countsForNothing_of_building
    (standard : interpreter.vocabulary = .standard)
    (isTag : interpreter.vocabulary.tag? node.name = some rule)
    {own : BuildingRule}
    (unlisted : Declaration.lists names "id" = false)
    (given : interpreter.GivesTo rule inTable ancestry names (.building own) entry) :
    interpreter.CountsForNothing rule inTable ancestry names (.building own) node earlier entry
      later := by
  intro others omits _
  have isStandard : rule.IsStandard :=
    Vocabulary.hasStandardRules_standard.tags node.name rule (standard ▸ isTag)
  have sameId := (omits.append_right earlier).lookup?_eq
    (fun own given => isNamed_of_lists unlisted given.1) (entry :: later)
  refine buildsAs_of_rejoins standard isTag sameId ?_
  rintro cells path journal rfl
  exact rejoins_omitting_building standard isStandard
    (Vocabulary.processor?_eq_building_iff.1 given.2)
    ((omits.imp fun _ given => given.2).append_right earlier) node path journal

/-- The value of a default for a property of widgets replaces those of attributes under other
names. -/
theorem countsForNothing_of_overwrites
    (standard : interpreter.vocabulary = .standard)
    (isTag : interpreter.vocabulary.tag? node.name = some rule)
    (makes : rule.Makes ancestry)
    {own : AttributeRule}
    (overwrites : own.Overwrites)
    (unlisted : Declaration.lists names "id" = false)
    (given : interpreter.GivesTo rule inTable ancestry names (.target own) entry) :
    interpreter.CountsForNothing rule inTable ancestry names (.target own) node earlier entry
      later := by
  intro others omits runsNothing
  have isStandard : rule.IsStandard :=
    Vocabulary.hasStandardRules_standard.tags node.name rule (standard ▸ isTag)
  have sameId := (omits.append_right earlier).lookup?_eq
    (fun own given => isNamed_of_lists unlisted given.1) (entry :: later)
  refine buildsAs_of_rejoins standard isTag sameId ?_
  rintro cells path journal rfl
  exact rejoins_omitting_target standard isStandard makes overwrites given.2
    ((omits.imp fun _ given => given.2).append_right earlier) (runsNothing rfl) node path journal

end Processors

/-- On tags that bear texts, both names for texts are given to one attribute of blueprints. -/
theorem exists_givesTo_text
    (standard : interpreter.vocabulary = .standard)
    (inTable : Bool)
    (ancestry : List TargetKey)
    (features : rule.features = [.base, .text]) :
    ∃ listed ∈ StandardAttribute.building,
      ∀ name ∈ ["text", "value"], ∀ value,
        interpreter.GivesTo rule inTable ancestry listed.1 (.building listed.2) ⟨name, value⟩ := by
  have isText : ∀ name ∈ ["text", "value"],
      (Vocabulary.standard.building? name [.base, .text]).map BuildingRule.feature =
        some .text := by
    decide +kernel
  have single : ∀ listed ∈ StandardAttribute.building,
      listed.2.feature = .text → StandardAttribute.building[1]? = some listed := by
    simp only [StandardAttribute.building, List.forall_mem_cons, List.mem_nil_iff, false_implies,
      implies_true, and_true]
    refine ⟨?_, fun _ => rfl, ?_, ?_, ?_, ?_, ?_, ?_⟩ <;> rintro ⟨⟩
  refine ⟨StandardAttribute.building[1], List.getElem_mem _, fun name member value => ?_⟩
  obtain ⟨found, isFound, isOfTexts⟩ := Option.map_eq_some_iff.1 (isText name member)
  obtain ⟨_, listed, isListed, named, rfl⟩ := Vocabulary.exists_of_building?_standard isFound
  cases single listed isListed isOfTexts
  refine ⟨named, ?_⟩
  rw [features, standard]
  exact Vocabulary.processor?_eq_building_iff.2 isFound

/--
A default in force makes no difference to a tag that has an attribute of its own under the name of
the default, in whatever spelling. Under any other name, the default stands behind all attributes
that the tag has of its own. So, whatever the default and some of these are given to: either each
of them adds something there, or the tag is built as if it did not have these, which the default
beats. For what is written into finished targets this is so if no action is run in between.
-/
theorem buildTag_of_default
    (standard : interpreter.vocabulary = .standard)
    {definitions : List StyleSheet.Definition}
    {node : Node}
    (isTag : interpreter.vocabulary.tag? node.name = some rule)
    (makes : rule.Makes ancestry)
    (isDefault : entry ∈ (StyleSheet.ofDefinitions definitions).defaultsOf node.name) :
    let styled := (StyleSheet.ofDefinitions definitions).complete node.name node.attributes
    let bare :=
      (StyleSheet.ofDefinitions (StyleSheet.without node.name entry.name definitions)).complete
        node.name node.attributes
    (Attribute.isPresent entry.name node.attributes = true → styled = bare) ∧
    (Attribute.isPresent entry.name node.attributes = false →
      ∃ earlier later,
        styled = node.attributes ++ earlier ++ entry :: later ∧
        bare = node.attributes ++ earlier ++ later ∧
        ∀ inTable names processor,
          processor.IsRegistered names →
          interpreter.GivesTo rule inTable ancestry names processor entry →
            processor.Accumulates ∨
            interpreter.CountsForNothing rule inTable ancestry names processor node earlier entry
              later) := by
  intro styled bare
  refine ⟨fun isPresent => (StyleSheet.complete_without_of_isPresent isPresent _).symm,
    fun isLacking => ?_⟩
  obtain ⟨earlier, later, isStyled, isBare⟩ :=
    StyleSheet.exists_complete_of_not_isPresent isDefault isLacking
  refine ⟨earlier, later, isStyled, isBare, fun inTable names processor isRegistered given => ?_⟩
  cases isRegistered with
  | cell | cellDefaults =>
      exact .inr (countsForNothing_of_single given isLacking)
  | @building listed isListed =>
      have unlisted : ∀ names ∈ StandardAttribute.building.map Prod.fst,
          Declaration.lists names "id" = false := by
        decide +kernel
      exact .inr (countsForNothing_of_building standard isTag
        (unlisted _ (List.mem_map_of_mem isListed)) given)
  | @target listed isListed =>
      have unlisted : ∀ names ∈ StandardAttribute.target.map Prod.fst,
          names.length = 1 ∨ Declaration.lists names "id" = false := by
        decide +kernel
      rcases unlisted _ (List.mem_map_of_mem isListed) with isSingle | unlisted
      · obtain ⟨name, isSingle⟩ := List.length_eq_one_iff.1 isSingle
        rw [isSingle] at given ⊢
        exact .inr (countsForNothing_of_single given isLacking)
      · rcases StandardAttribute.overwrites_of_mem_target listed isListed with
          ⟨name, isSingle⟩ | accumulates | overwrites
        · rw [isSingle] at given ⊢
          exact .inr (countsForNothing_of_single given isLacking)
        · exact .inl (.target accumulates)
        · exact .inr
            (countsForNothing_of_overwrites standard isTag makes overwrites unlisted given)

/-- A label with a text of its own is built as if it had none when there is a default value. -/
theorem buildTag_of_default_value :
    let definitions : List StyleSheet.Definition := [("label", ⟨"value", "b"⟩)]
    let interpreter : Interpreter :=
      { vocabulary := .standard, styles := .ofDefinitions definitions }
    let node : Node := { name := "label", attributes := [⟨"text", "a"⟩] }
    interpreter.styles.complete node.name node.attributes = [⟨"text", "a"⟩, ⟨"value", "b"⟩] ∧
      interpreter.BuildsAs false { node with attributes := [⟨"text", "a"⟩, ⟨"value", "b"⟩] }
        { node with attributes := [⟨"value", "b"⟩] } := by
  intro definitions interpreter node
  have completes :
      interpreter.styles.complete node.name node.attributes =
        [⟨"text", "a"⟩, ⟨"value", "b"⟩] := by
    decide +kernel
  refine ⟨completes, ?_⟩
  have standard : interpreter.vocabulary = .standard := rfl
  have shown : (Vocabulary.standard.tag? node.name).map TagRule.features = some [.base, .text] := by
    decide +kernel
  obtain ⟨rule, isTag, features⟩ := Option.map_eq_some_iff.1 shown
  obtain ⟨ancestry, makes⟩ :=
    (Vocabulary.hasStandardRules_standard.tags _ _ isTag).exists_makes
  have isDefault :
      ⟨"value", "b"⟩ ∈ (StyleSheet.ofDefinitions definitions).defaultsOf node.name := by
    decide +kernel
  obtain ⟨_, behind⟩ := buildTag_of_default standard isTag makes isDefault
  obtain ⟨earlier, later, styled, _, counts⟩ := behind (by decide +kernel)
  have lengths := congrArg List.length (completes.symm.trans styled)
  simp only [node, List.length_cons, List.length_nil, List.length_append] at lengths
  obtain rfl := List.length_eq_zero_iff.1 (by omega : earlier.length = 0)
  obtain rfl := List.length_eq_zero_iff.1 (by omega : later.length = 0)
  obtain ⟨_, isListed, given⟩ := exists_givesTo_text standard false ancestry features
  have valueGiven := given "value" (by simp) "b"
  obtain ⟨⟨⟩⟩ | nothing := counts false _ _ (.building isListed) valueGiven
  exact nothing [] (.drops (given "text" (by simp) "a") .nil) nofun

/-- A text of a label beats a default text, and a default value beats it. -/
theorem explicit_text_beaten :
    let interpreter : Interpreter := { vocabulary := .standard }
    let texts (source : String) : Option (List (Option String)) :=
      (interpreter.parse source).result.toOption.map fun document =>
        document.roots.map Widget.text
    texts "<label text=\"a\"/>" = some [some "a"] ∧
      texts "<:style tag=\"label\" name=\"text\" value=\"b\"/><label text=\"a\"/>" =
        some [some "a"] ∧
      texts "<:style tag=\"label\" name=\"value\" value=\"b\"/><label text=\"a\"/>" =
        some [some "b"] := by
  decide +kernel

end Interpreter

end WidgetMarkup
