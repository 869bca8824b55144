import WidgetMarkup.Proofs.Construction.KeptIds
import WidgetMarkup.Proofs.Construction.Successes
import WidgetMarkup.Proofs.Expansion.OutputSize

namespace WidgetMarkup

open Markup

/-!
# The ids of documents

A tag registers its id when it closes, behind the ids of all tags inside it. So what a tag has
registered is at every time what the widgets made for it hold, in post-order, and no id twice.
-/

/-- Whether ids have been registered behind those from before, none of them twice. -/
structure Registers (before added after : List String) : Prop where
  ids : after = before ++ added
  distinct : before.Nodup → after.Nodup

namespace Registers

variable {before between after added others : List String}

theorem nothing
    (before : List String) :
    Registers before [] before where
  ids := (List.append_nil before).symm
  distinct := id

theorem trans
    (first : Registers before added between)
    (second : Registers between others after) :
    Registers before (added ++ others) after where
  ids := by
    rw [second.ids, first.ids, List.append_assoc]
  distinct := fun distinct => second.distinct (first.distinct distinct)

/-- Registering the id of a widget if it has one that is new. -/
theorem ofNew
    {id? : Option String}
    (isNew : ∀ id, id? = some id → id ∉ before) :
    Registers before id?.toList (before ++ id?.toList) where
  ids := rfl
  distinct := fun distinct => by
    cases id? with
    | none =>
        rwa [Option.toList_none, List.append_nil]
    | some id =>
        exact distinct.append (List.nodup_singleton id)
          (List.disjoint_singleton.2 (isNew id rfl))

end Registers

/-- A tag that closes registers its own id behind the ids inside it. -/
theorem Assembly.ClosingEffect.registers
    {actions : Actions}
    (keep : actions.KeepIds)
    {openIds ids ids' : List String}
    {target closed : Target}
    (effect : ClosingEffect actions openIds ids ids' target closed) :
    ∃ added, Registers ids added ids' ∧ closed.ids = target.idsInside ++ added := by
  cases effect with
  | @widget widget changed isNew registers runs =>
      refine ⟨widget.id.toList, registers ▸ .ofNew isNew, ?_⟩
      let same (other : Widget) : Prop :=
        other.id = widget.id ∧ other.idsInside = widget.idsInside
      obtain ⟨sameId, sameInside⟩ : same changed := by
        refine runs.keeps same (fun name action other found isSame => ?_) ⟨rfl, rfl⟩
        obtain ⟨sameId, sameInside⟩ := keep name action found other
        exact ⟨sameId.trans isSame.1, sameInside.trans isSame.2⟩
      change changed.ids = widget.idsInside ++ _
      rw [Widget.ids_eq, sameInside, sameId]
  | listener listener sameIds =>
      exact ⟨[], sameIds ▸ .nothing ids, rfl⟩

namespace Interpreter

variable {interpreter : Interpreter}

/-- A tag that is begun holds no ids yet. -/
theorem keepsTargets_idsInside
    (keep : interpreter.actions.KeepIds) :
    interpreter.KeepsTargets fun target => target.idsInside = [] where
  create isStandard made := isStandard.idsInside_create made
  apply effect holds := (effect.idsInside keep).trans holds
  takeText effect holds := effect.idsInside.trans holds

/-- The ids that a tag which was built, or left out, brings into a document. -/
def idsOfBuilt (built : Option Target) : List String :=
  built.elim [] Target.ids

/-- A tag registers the ids that it brings into the document, those of its children first. -/
theorem buildSteps_registers
    (keep : interpreter.actions.KeepIds) :
    interpreter.BuildSteps
      (fun _ _ ids built ids' => Registers ids (idsOfBuilt built) ids')
      (fun _ target _ ids filled ids' =>
        ∃ added, Registers ids added ids' ∧ filled.idsInside = target.idsInside ++ added) where
  leftOut _ := .nothing _
  closes _ isStandard begins children closing := by
    obtain ⟨inside, registers, isFilled⟩ := children
    obtain ⟨own, closes, ids⟩ := closing.registers keep
    have isEmpty := begins.keeps (keepsTargets_idsInside keep) isStandard
    change Registers _ (Target.ids _) _
    rw [ids, isFilled, isEmpty]
    exact registers.trans closes
  nil _ _ ids := ⟨[], .nothing ids, (List.append_nil _).symm⟩
  skips first rest := by
    obtain ⟨added, others, isFilled⟩ := rest
    exact ⟨added, first.trans others, isFilled⟩
  takes first taking rest := by
    obtain ⟨added, others, isFilled⟩ := rest
    refine ⟨_, first.trans others, ?_⟩
    rw [isFilled, taking.idsInside, List.append_assoc]
    rfl

/-- A root stands behind those before it, and a listener among the roots changes no ids. -/
theorem RootEffect.ids
    {target : Target}
    {roots placed : List Widget}
    (effect : RootEffect target roots placed) :
    placed.reverse.flatMap Widget.ids = roots.reverse.flatMap Widget.ids ++ target.ids := by
  cases effect with
  | widget widget roots =>
      rw [List.reverse_cons, List.flatMap_append, List.flatMap_singleton]
      rfl
  | listener listener previous others =>
      have sameIds :
          Widget.ids { previous with listeners := previous.listeners ++ [listener] } =
            previous.ids := by
        rw [Widget.ids_eq, Widget.ids_eq]
        rfl
      rw [List.reverse_cons, List.reverse_cons, List.flatMap_append, List.flatMap_append,
        List.flatMap_singleton, List.flatMap_singleton, sameIds]
      exact (List.append_nil _).symm

/-- A document has the ids of its widgets in post-order, and none of them twice. -/
theorem ids_runConstruction
    (standard : interpreter.vocabulary = .standard)
    (keep : interpreter.actions.KeepIds)
    {journal : Journal}
    {nodes : List Node}
    {document : Document}
    (ran : (interpreter.runConstruction journal nodes).result = .ok document) :
    document.ids = document.widgets.filterMap Widget.id ∧ document.ids.Nodup := by
  have registers : Registers [] (document.roots.reverse.reverse.flatMap Widget.ids)
      document.ids := by
    refine runConstruction_eq_ok standard (buildSteps_registers keep)
      (fun _ roots ids => Registers [] (roots.reverse.flatMap Widget.ids) ids)
      (fun holds first => ?_) (fun holds first placed => ?_) (.nothing []) ran
    · have added := holds.trans first
      rwa [idsOfBuilt, Option.elim_none, List.append_nil] at added
    · rw [placed.ids]
      exact holds.trans first
  rw [List.reverse_reverse] at registers
  refine ⟨?_, registers.distinct List.nodup_nil⟩
  rw [Document.filterMap_id_widgets]
  exact registers.ids

/--
The ids of a document: with the vocabulary of the language and actions that leave ids where they
are, no id comes twice, and they are the ids of all widgets in post-order. Just one widget has an
id of the document, which finds it by that id, and finds nothing by any other.
-/
theorem ids_of_runWithin
    (interpreter : Interpreter)
    (standard : interpreter.vocabulary = .standard)
    (keep : interpreter.actions.KeepIds)
    (imports : List String)
    (source : String)
    (document : Document)
    (ran : (interpreter.runWithin imports source).result = .ok document) :
    document.ids.Nodup ∧
      document.ids = document.widgets.filterMap Widget.id ∧
      (∀ id ∈ document.ids,
        ∃ widget,
          (document.widgets.filter fun other => other.id == some id) = [widget] ∧
            document.named? id = some widget) ∧
      ∀ id, id ∉ document.ids → document.named? id = none := by
  obtain ⟨nodes, expanded, scope, journal, _, _, construction⟩ :=
    exists_construction_of_runWithin ran
  rw [construction] at ran
  obtain ⟨ids, distinct⟩ := ids_runConstruction standard keep ran
  refine ⟨distinct, ids, ?taken, ?free⟩
  case taken =>
    intro id taken
    exact Document.named?_eq_some (ids ▸ distinct) (ids ▸ taken)
  case free =>
    intro id free
    exact Document.named?_eq_none (ids ▸ free)

/-- A widget closes, and its id is registered, before the one around it. -/
theorem ids_of_runWithin_nested :
    let hide : Action := { onWidget := fun widget => ({ widget with visible := false }, none) }
    let interpreter : Interpreter :=
      { vocabulary := .standard, actions := ({} : Actions).insert "hide" hide }
    let source := "<group id=\"outer\"><stack id=\"inner\" onClose=\"hide\"/></group>"
    interpreter.actions.KeepIds ∧
      ∃ document,
        (interpreter.runWithin [] source).result = .ok document ∧
          document.ids = ["inner", "outer"] ∧
          document.widgets.filterMap Widget.id = ["inner", "outer"] ∧
          (document.named? "inner").isSome ∧
          document.named? "other" = none := by
  intro hide interpreter source
  have keep : interpreter.actions.KeepIds := by
    intro name action found
    rw [Actions.eq_of_find?_insert found]
    exact Action.keepsIds_of_content fun _ => ⟨rfl, rfl⟩
  have registered :
      (interpreter.runWithin [] source).result.toOption.map Document.ids =
        some ["inner", "outer"] := by
    decide +kernel
  obtain ⟨document, ran, registered⟩ := Run.exists_ok_of_seen registered
  obtain ⟨_, ids, taken, free⟩ := ids_of_runWithin interpreter rfl keep [] source document ran
  obtain ⟨inner, _, named⟩ := taken "inner" (by rw [registered]; decide)
  refine ⟨keep, document, ran, registered, ids ▸ registered, ?_, ?_⟩
  · rw [named]
    rfl
  · exact free "other" (by rw [registered]; decide)

end Interpreter

end WidgetMarkup
