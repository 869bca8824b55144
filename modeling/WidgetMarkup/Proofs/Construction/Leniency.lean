import WidgetMarkup.Proofs.Construction.Alike
import WidgetMarkup.Proofs.Construction.Pruning
import WidgetMarkup.Proofs.Construction.Refusals
import WidgetMarkup.Run

namespace WidgetMarkup

open Markup

/-!
# Leniency

To leave out unknown names is to build the forest without them: the run that warns of them and the
run that refuses them, on the forest without unknown names, go through alike states.
-/

/-- The language knows ids. -/
theorem Vocabulary.knowsAttribute_id :
    Vocabulary.standard.knowsAttribute "id" = true := by
  decide +kernel

namespace Interpreter

variable {interpreter : Interpreter}

section Attributes

open Assembly Work

theorem alike_applyAttribute
    (has : interpreter.vocabulary.HasStandardRules)
    {entry : Attribute}
    (isKnown : interpreter.vocabulary.knowsAttribute entry.name = true) :
    Alike Bench.SameCalls (applyAttribute (interpreter.withStrictness .warn) entry)
      (applyAttribute (interpreter.withStrictness .fail) entry) := by
  refine alike_requireTarget.bind fun target => .get_bind ?_
  rintro ⟨assembly, journal⟩ ⟨_, journal'⟩ ⟨rfl, related⟩
  simp only [withStrictness]
  cases resolved : interpreter.vocabulary.resolve target.ancestry entry.name with
  | found rule =>
      have isBlind := (has.attributes _ _ _ resolved).isBlind
      exact (alike_record _ _).bind fun _ =>
        (alike_onAttribute (alike_logged (isBlind _ _ _)) _).bind fun _ => alike_change _
  | unsupported =>
      exact alike_onAttribute (alike_fail _) _
  | unknown =>
      cases isKnown.symm.trans (Vocabulary.resolve_eq_unknown_iff.1 resolved)

/-- An unknown attribute is left out with a warning. -/
theorem applyAttribute_of_unknown
    {entry : Attribute}
    (isUnknown : interpreter.vocabulary.knowsAttribute entry.name = false)
    {bench : Bench}
    {target : Target}
    (made : bench.assembly.target = some target) :
    ∃ text,
      applyAttribute (interpreter.withStrictness .warn) entry bench =
        .ok () { bench with journal := bench.journal.record .warning text } := by
  have resolved :
      (interpreter.withStrictness .warn).vocabulary.resolve target.ancestry entry.name =
        .unknown :=
    Vocabulary.resolve_eq_unknown_iff.2 isUnknown
  have looked : (get : Work Bench) bench = .ok bench bench :=
    rfl
  have required : requireTarget bench = .ok target bench := by
    simp only [requireTarget, bind, EStateM.bind, looked, made]
    rfl
  unfold applyAttribute
  simp only [bind, EStateM.bind, required, looked, resolved]
  exact ⟨_, rfl⟩

/-- Attributes are applied with a warning for each unknown one as the known ones are alone. -/
theorem sameResult_applyAttributes
    (has : interpreter.vocabulary.HasStandardRules)
    (entries : List Attribute) :
    ∀ bench bench',
      bench.SameCalls bench' → bench.assembly.target.isSome →
        SameResult Bench.SameCalls
          (applyAttributes (interpreter.withStrictness .warn) entries bench)
          (applyAttributes (interpreter.withStrictness .fail)
            (entries.filter fun entry => interpreter.vocabulary.knowsAttribute entry.name)
            bench') := by
  induction entries with
  | nil =>
      intro bench bench' related made
      exact .ok () related
  | cons first rest inductionHypothesis =>
      intro bench bench' related made
      rw [List.filter_cons]
      cases isKnown : interpreter.vocabulary.knowsAttribute first.name with
      | true =>
          rw [if_pos rfl]
          refine Alike.sameResult_bind
            (alike_applyAttribute has isKnown bench bench' related) ?_
          intro _ after after' ran related
          have keeps :
              Leads (fun assembly => assembly.target.isSome)
                (applyAttribute (interpreter.withStrictness .warn) first)
                fun _ assembly => assembly.target.isSome :=
            keeps_applyAttribute fun _ _ _ _ _ _ _ _ _ _ => rfl
          exact inductionHypothesis after after' related (keeps bench () after made ran)
      | false =>
          rw [if_neg Bool.false_ne_true]
          obtain ⟨target, isTarget⟩ := Option.isSome_iff_exists.1 made
          obtain ⟨text, skips⟩ := applyAttribute_of_unknown isKnown isTarget
          rw [applyAttributes]
          simp only [bind, EStateM.bind, skips]
          exact inductionHypothesis _ bench' ⟨related.assembly, related.journal⟩ made

end Attributes

section Tags

open Assembly Registration Work

theorem sameResult_takeText
    (text : String)
    {bench bench' : Bench}
    (isStandard : bench.assembly.rule.IsStandard)
    (related : bench.SameCalls bench') :
    SameResult Bench.SameCalls (takeText text bench) (takeText text bench') := by
  refine Alike.sameResult_bind (alike_requireTarget bench bench' related) ?_
  rintro target ⟨assembly, journal⟩ ⟨_, journal'⟩ ran ⟨rfl, related⟩
  have kept := @Leads.requireTarget (fun assembly => assembly.rule.IsStandard) bench target _
    isStandard ran
  exact ((alike_logged (kept.1.isBlind _ _ _)).bind fun _ => alike_change _) _ _ ⟨rfl, related⟩

theorem sameResult_settle
    (cells : Option CellProperties)
    (entries : List (CellRule × Attribute))
    (text : String)
    {bench bench' : Bench}
    (isStandard : bench.assembly.rule.IsStandard)
    (related : bench.SameCalls bench') :
    SameResult Bench.SameCalls (settle cells entries text bench)
      (settle cells entries text bench') := by
  have takes {bench bench' : Bench}
      (isStandard : bench.assembly.rule.IsStandard)
      (related : bench.SameCalls bench') :
      SameResult Bench.SameCalls
        ((if !Text.isBlankText text then takeText text else pure ()) bench)
        ((if !Text.isBlankText text then takeText text else pure ()) bench') := by
    split
    · exact sameResult_takeText text isStandard related
    · exact .ok () related
  cases cells with
  | none =>
      exact takes isStandard related
  | some defaults =>
      refine Alike.sameResult_bind (alike_configureCell defaults entries _ _ related) ?_
      intro _ after after' ran related
      exact takes
        (leads_configureCell (fun assembly => assembly.rule.IsStandard)
          (fun _ _ isStandard => isStandard) defaults entries _ () after isStandard ran)
        related

/-- A tag is begun with warnings as it is begun without its unknown attributes. -/
theorem alike_beginTag
    (has : interpreter.vocabulary.HasStandardRules)
    {rule : TagRule}
    (isStandard : rule.IsStandard)
    (path : TagPath)
    (cells : Option CellProperties)
    (node : Node) :
    Alike Register.SameCalls ((interpreter.withStrictness .warn).beginTag path rule cells node)
      ((interpreter.withStrictness .fail).beginTag path rule cells
        (interpreter.vocabulary.pruneInside node)) := by
  rw [beginTag_eq, beginTag_eq]
  refine (Registration.alike_record _ _).bind fun _ register register' related => ?_
  refine sameResult_work related ?_
  simp only [withStrictness, Vocabulary.pruneInside_attributes, Vocabulary.pruneInside_text,
    Vocabulary.ofAttributes_filter]
  let holds (assembly : Assembly) : Prop := assembly.rule.IsStandard
  refine Alike.sameResult_bind (alike_fillBlueprint _ _ _ ⟨rfl, related.journal⟩) ?_
  intro _ filled filled' ran related
  have isFilled : holds filled.assembly :=
    leads_fillBlueprint holds (fun _ _ _ isRule => isRule) _ _ () filled isStandard ran
  refine Alike.sameResult_bind (alike_instantiate _ _ related) ?_
  intro _ made made' ran related
  obtain ⟨before, target, isMade, _, isAfter⟩ :=
    leads_instantiate holds filled () made isFilled ran
  have hasTarget : made.assembly.target.isSome := by
    rw [isAfter]
    rfl
  refine Alike.sameResult_bind (sameResult_applyAttributes has _ _ _ related hasTarget) ?_
  intro _ applied applied' ran related
  have isApplied : holds applied.assembly :=
    @leads_applyAttributes holds _
      (fun _ => keeps_applyAttribute fun _ _ _ _ _ _ isRule _ _ _ => isRule)
      _ made () applied (by rw [isAfter]; exact isMade) ran
  exact sameResult_settle _ _ _ isApplied related

/-- A warning makes no difference to what follows it. -/
theorem alike_of_warning
    {α : Type}
    {next next' : Registration α}
    (alike : Alike Register.SameCalls next next')
    (text : String) :
    Alike Register.SameCalls (Registration.record .warning text >>= fun _ => next) next' :=
  fun _ _ related => alike _ _ ⟨related.ids, related.journal⟩

/-- An unmarked tag that is known is built, however strict the interpreter is. -/
theorem buildTag_of_known
    {strictness : Strictness}
    {parent : TagPath}
    {openIds : List String}
    {cells : Option CellProperties}
    {node : Node}
    {rule : TagRule}
    (isTag : node.isMacro = false)
    (found : interpreter.vocabulary.tag? node.name = some rule) :
    (interpreter.withStrictness strictness).buildTag parent openIds cells node =
      (do
        let path := parent.child node.name (node.attribute? "id")
        let closed ←
          (interpreter.withStrictness strictness).buildAdmitted path openIds cells rule node
        return some closed) := by
  rw [buildTag_eq]
  simp only [admitTag, isTag, withStrictness, found]
  rfl

/-- A marked tag is refused, however strict the interpreter is. -/
theorem buildTag_of_marked
    {parent : TagPath}
    {openIds : List String}
    {cells : Option CellProperties}
    {node : Node}
    (isMacro : node.isMacro = true) :
    interpreter.buildTag parent openIds cells node =
      Registration.fail (parent.child node.name (node.attribute? "id"))
        (.unknownMacro node.name) := by
  rw [buildTag_eq]
  simp only [admitTag, isMacro]
  rfl

/-- An unmarked tag that is unknown is left out with a warning. -/
theorem buildTag_of_unknown
    {node : Node}
    (isTag : node.isMacro = false)
    (notFound : interpreter.vocabulary.tag? node.name = none)
    (parent : TagPath)
    (openIds : List String)
    (cells : Option CellProperties) :
    ∃ text,
      (interpreter.withStrictness .warn).buildTag parent openIds cells node =
        (do
          Registration.record .warning text
          return none) := by
  rw [buildTag_eq]
  simp only [admitTag, isTag, withStrictness, notFound]
  exact ⟨_, rfl⟩

/-- Builds a tag without the unknown names on it and inside it, unless it is unknown itself. -/
def buildKnown
    (interpreter : Interpreter)
    (parent : TagPath)
    (openIds : List String)
    (cells : Option CellProperties)
    (node : Node) :
    Registration (Option ClosedTag) :=
  match interpreter.vocabulary.isUnknownTag node with
  | true => pure none
  | false => interpreter.buildTag parent openIds cells (interpreter.vocabulary.pruneInside node)

/-- A forest without unknown names is built as its known tags are, one after another. -/
theorem buildChildren_prune_cons
    (path : TagPath)
    (openIds : List String)
    (cells : Option CellProperties)
    (assembly : Assembly)
    (node : Node)
    (rest : List Node) :
    interpreter.buildChildren path openIds cells assembly
        (interpreter.vocabulary.prune (node :: rest)) =
      (do
        match ← interpreter.buildKnown path openIds cells node with
        | none =>
            interpreter.buildChildren path openIds cells assembly
              (interpreter.vocabulary.prune rest)
        | some closed => do
            let next ← Registration.work assembly (Assembly.attach closed)
            interpreter.buildChildren path openIds cells next
              (interpreter.vocabulary.prune rest)) := by
  rw [Vocabulary.prune, buildKnown]
  cases interpreter.vocabulary.isUnknownTag node with
  | true =>
      rfl
  | false =>
      rewrite [if_neg Bool.false_ne_true, buildChildren]
      rfl

theorem alike_buildAdmitted
    (has : interpreter.vocabulary.HasStandardRules)
    {path : TagPath}
    {rule : TagRule}
    {node : Node}
    (isStandard : rule.IsStandard)
    (children :
      ∀ openIds cells assembly,
        Alike Register.SameCalls
          ((interpreter.withStrictness .warn).buildChildren path openIds cells assembly
            node.children)
          ((interpreter.withStrictness .fail).buildChildren path openIds cells assembly
            (interpreter.vocabulary.prune node.children)))
    (openIds : List String)
    (cells : Option CellProperties) :
    Alike Register.SameCalls
      ((interpreter.withStrictness .warn).buildAdmitted path openIds cells rule node)
      ((interpreter.withStrictness .fail).buildAdmitted path openIds cells rule
        (interpreter.vocabulary.pruneInside node)) := by
  unfold buildAdmitted
  rw [Vocabulary.pruneInside_children]
  refine (alike_beginTag has isStandard path cells node).bind fun begun => ?_
  refine (children _ _ begun).bind fun filled => ?_
  exact (alike_work filled (alike_change _)).bind fun finished => alike_close finished _ _

/-- An unknown tag is built to nothing, and any other as it is without unknown names if its
children are. -/
theorem alike_buildTag_of
    (has : interpreter.vocabulary.HasStandardRules)
    (knowsId : interpreter.vocabulary.knowsAttribute "id" = true)
    {node : Node}
    (children :
      ∀ path openIds cells assembly,
        Alike Register.SameCalls
          ((interpreter.withStrictness .warn).buildChildren path openIds cells assembly
            node.children)
          ((interpreter.withStrictness .fail).buildChildren path openIds cells assembly
            (interpreter.vocabulary.prune node.children)))
    (parent : TagPath)
    (openIds : List String)
    (cells : Option CellProperties) :
    Alike Register.SameCalls
      ((interpreter.withStrictness .warn).buildTag parent openIds cells node)
      ((interpreter.withStrictness .fail).buildKnown parent openIds cells node) := by
  have sameId := Vocabulary.attribute?_pruneInside knowsId node
  unfold buildKnown
  rw [withStrictness_vocabulary]
  cases marked : node.isMacro with
  | true =>
      have isKnown : interpreter.vocabulary.isUnknownTag node = false := by
        simp [Vocabulary.isUnknownTag, marked]
      have isMacro : (interpreter.vocabulary.pruneInside node).isMacro = true := by
        rw [Vocabulary.pruneInside_isMacro, marked]
      rw [isKnown, buildTag_of_marked marked]
      dsimp only
      rw [buildTag_of_marked isMacro, Vocabulary.pruneInside_name, sameId]
      exact alike_fail _ _
  | false =>
      cases found : interpreter.vocabulary.tag? node.name with
      | none =>
          have isUnknown : interpreter.vocabulary.isUnknownTag node = true := by
            simp [Vocabulary.isUnknownTag, marked, found]
          obtain ⟨text, skips⟩ := buildTag_of_unknown marked found parent openIds cells
          rw [isUnknown, skips]
          exact alike_of_warning (.pure none) text
      | some rule =>
          have isKnown : interpreter.vocabulary.isUnknownTag node = false := by
            simp [Vocabulary.isUnknownTag, found]
          have isTag : (interpreter.vocabulary.pruneInside node).isMacro = false := by
            rw [Vocabulary.pruneInside_isMacro, marked]
          have isFound :
              interpreter.vocabulary.tag? (interpreter.vocabulary.pruneInside node).name =
                some rule := by
            rw [Vocabulary.pruneInside_name, found]
          rw [isKnown, buildTag_of_known marked found]
          dsimp only
          rw [buildTag_of_known isTag isFound, Vocabulary.pruneInside_name, sameId]
          exact (alike_buildAdmitted has (has.tags _ rule found) (children _) openIds cells).bind
            fun closed => .pure (some closed)

mutual

theorem alike_buildTag
    (has : interpreter.vocabulary.HasStandardRules)
    (knowsId : interpreter.vocabulary.knowsAttribute "id" = true) :
    ∀ node parent openIds cells,
      Alike Register.SameCalls
        ((interpreter.withStrictness .warn).buildTag parent openIds cells node)
        ((interpreter.withStrictness .fail).buildKnown parent openIds cells node)
  | ⟨_, _, _, children, _, _⟩ =>
      alike_buildTag_of has knowsId (alike_buildChildren has knowsId children)

/-- Children are built with warnings as they are built without unknown names. -/
theorem alike_buildChildren
    (has : interpreter.vocabulary.HasStandardRules)
    (knowsId : interpreter.vocabulary.knowsAttribute "id" = true) :
    ∀ nodes path openIds cells assembly,
      Alike Register.SameCalls
        ((interpreter.withStrictness .warn).buildChildren path openIds cells assembly nodes)
        ((interpreter.withStrictness .fail).buildChildren path openIds cells assembly
          (interpreter.vocabulary.prune nodes))
  | [], _, _, _, assembly => .pure assembly
  | node :: rest, path, openIds, cells, assembly => by
      have others (assembly : Assembly) :=
        alike_buildChildren has knowsId rest path openIds cells assembly
      rw [← withStrictness_vocabulary .fail, buildChildren_prune_cons, buildChildren]
      refine (alike_buildTag has knowsId node path openIds cells).bind fun built => ?_
      cases built with
      | none =>
          exact others assembly
      | some closed =>
          exact (alike_work assembly (alike_attach closed)).bind others

end

theorem placeRoot_pruneInside
    (vocabulary : Vocabulary)
    (node : Node) :
    placeRoot (vocabulary.pruneInside node) = placeRoot node := by
  funext closed roots
  unfold placeRoot
  rw [Vocabulary.pruneInside_name]

/-- The roots of a forest without unknown names are built as its known roots are. -/
theorem buildRoots_prune_cons
    (roots : List Widget)
    (node : Node)
    (rest : List Node) :
    interpreter.buildRoots roots (interpreter.vocabulary.prune (node :: rest)) =
      (do
        match ← interpreter.buildKnown .root [] none node with
        | none => interpreter.buildRoots roots (interpreter.vocabulary.prune rest)
        | some closed =>
            match placeRoot node closed roots with
            | .ok next => interpreter.buildRoots next (interpreter.vocabulary.prune rest)
            | .error problem => throw problem) := by
  rw [Vocabulary.prune, buildKnown]
  cases interpreter.vocabulary.isUnknownTag node with
  | true =>
      rfl
  | false =>
      rewrite [if_neg Bool.false_ne_true, buildRoots, placeRoot_pruneInside]
      rfl

/-- Roots are built with warnings as they are built without unknown names. -/
theorem alike_buildRoots
    (has : interpreter.vocabulary.HasStandardRules)
    (knowsId : interpreter.vocabulary.knowsAttribute "id" = true)
    (roots : List Widget)
    (nodes : List Node) :
    Alike Register.SameCalls ((interpreter.withStrictness .warn).buildRoots roots nodes)
      ((interpreter.withStrictness .fail).buildRoots roots
        (interpreter.vocabulary.prune nodes)) := by
  induction nodes generalizing roots with
  | nil =>
      exact .pure _
  | cons node rest inductionHypothesis =>
      rw [← withStrictness_vocabulary .fail, buildRoots_prune_cons, buildRoots]
      refine (alike_buildTag has knowsId node .root [] none).bind fun built => ?_
      cases built with
      | none =>
          exact inductionHypothesis roots
      | some closed =>
          dsimp only
          cases placeRoot node closed roots with
          | ok next =>
              exact inductionHypothesis next
          | error problem =>
              exact .throw problem

theorem alike_build
    (has : interpreter.vocabulary.HasStandardRules)
    (knowsId : interpreter.vocabulary.knowsAttribute "id" = true)
    (nodes : List Node) :
    Alike Register.SameCalls ((interpreter.withStrictness .warn).build nodes)
      ((interpreter.withStrictness .fail).build (interpreter.vocabulary.prune nodes)) := by
  refine (alike_buildRoots has knowsId [] nodes).bind fun roots => .get_bind ?_
  rintro ⟨ids, journal⟩ ⟨_, journal'⟩ ⟨rfl, related⟩
  exact .pure _

end Tags

/-- Building with warnings gives what strict building of the forest without unknown names gives. -/
theorem runConstruction_prune
    (standard : interpreter.vocabulary = .standard)
    (journal : Journal)
    (nodes : List Node) :
    let lenient := (interpreter.withStrictness .warn).runConstruction journal nodes
    let strict :=
      (interpreter.withStrictness .fail).runConstruction journal
        (interpreter.vocabulary.prune nodes)
    lenient.result = strict.result ∧ lenient.journal.SameCalls strict.journal := by
  have has : interpreter.vocabulary.HasStandardRules :=
    standard ▸ Vocabulary.hasStandardRules_standard
  have knowsId : interpreter.vocabulary.knowsAttribute "id" = true :=
    standard ▸ Vocabulary.knowsAttribute_id
  have ends := alike_build has knowsId nodes { journal } { journal } ⟨rfl, rfl⟩
  unfold runConstruction
  generalize (interpreter.withStrictness .warn).build nodes { journal } = result,
    (interpreter.withStrictness .fail).build (interpreter.vocabulary.prune nodes) { journal } =
      result' at ends
  cases ends with
  | ok document related =>
      exact ⟨rfl, related.journal⟩
  | error problem related =>
      exact ⟨rfl, related.journal⟩

/-- Strict building fails for an unknown name or is building with warnings. -/
theorem runConstruction_refines
    (interpreter : Interpreter)
    (journal : Journal)
    (nodes : List Node) :
    let lenient := (interpreter.withStrictness .warn).runConstruction journal nodes
    let strict := (interpreter.withStrictness .fail).runConstruction journal nodes
    strict = lenient ∨
      ∃ problem, strict.result = .error problem ∧ problem.problem.isUnknownName = true := by
  dsimp only
  unfold runConstruction
  rcases refines_build interpreter nodes { journal } with
    same | ⟨problem, after, failed, isUnknown⟩
  · rw [same]
    exact .inl rfl
  · rw [failed]
    exact .inr ⟨problem, rfl, isUnknown⟩

/--
Lenient mode is strict mode on the pruned forest: with the vocabulary of the language, to build a
forest and leave out unknown names gives the result, and runs the actions, of building strictly
what is left of it. So a document that is built strictly is built leniently, and no problem but an
unknown name is tolerated.
-/
theorem runConstruction_lenient
    (interpreter : Interpreter)
    (standard : interpreter.vocabulary = .standard)
    (journal : Journal)
    (nodes : List Node) :
    let lenient := (interpreter.withStrictness .warn).runConstruction journal
    let strict := (interpreter.withStrictness .fail).runConstruction journal
    let pruned := interpreter.vocabulary.prune nodes
    ((lenient nodes).result = (strict pruned).result ∧
      (lenient nodes).journal.SameCalls (strict pruned).journal) ∧
    (∀ document,
      (strict nodes).result = .ok document → (lenient nodes).result = .ok document) ∧
    ∀ problem,
      (strict nodes).result = .error problem → problem.problem.isUnknownName = false →
        (lenient nodes).result = .error problem := by
  intro lenient strict pruned
  refine ⟨runConstruction_prune standard journal nodes, ?documents, ?problems⟩
  case documents =>
    intro document built
    rcases runConstruction_refines interpreter journal nodes with
      same | ⟨problem, failed, _⟩
    · exact (congrArg Run.result same.symm).trans built
    · cases built.symm.trans failed
  case problems =>
    intro problem failed isOther
    rcases runConstruction_refines interpreter journal nodes with
      same | ⟨unknown, refused, isUnknown⟩
    · exact (congrArg Run.result same.symm).trans failed
    · cases failed.symm.trans refused
      cases isOther.symm.trans isUnknown

/-- A group with an unknown attribute and an unknown tag inside is built as it is without them. -/
theorem runConstruction_lenient_mixed :
    let interpreter : Interpreter := { vocabulary := .standard }
    let nodes : List Node :=
      [{ name := "group", attributes := [⟨"colour", "red"⟩]
         children :=
          [{ name := "blink", children := [{ name := "label" }] }, { name := "stack" }] }]
    let pruned := interpreter.vocabulary.prune nodes
    ∃ document,
      ((interpreter.withStrictness .warn).runConstruction {} nodes).result = .ok document ∧
        ((interpreter.withStrictness .fail).runConstruction {} pruned).result = .ok document ∧
        document.count = 2 := by
  intro interpreter nodes pruned
  have count :
      ((interpreter.withStrictness .warn).runConstruction {} nodes).result.toOption.map
        Document.count = some 2 := by
    decide +kernel
  have same := (runConstruction_lenient interpreter rfl {} nodes).1.1
  cases built : ((interpreter.withStrictness .warn).runConstruction {} nodes).result with
  | error problem =>
      rw [built] at count
      cases count
  | ok document =>
      rw [built] at count
      exact ⟨document, rfl, same.symm.trans built, Option.some.inj count⟩

end Interpreter

end WidgetMarkup
