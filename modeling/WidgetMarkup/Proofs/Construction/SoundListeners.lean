import WidgetMarkup.Proofs.Construction.Successes
import WidgetMarkup.Proofs.Expansion.OutputSize
import WidgetMarkup.Proofs.Widget.Search

namespace WidgetMarkup

open Markup

/-!
# Listeners that can be served

A listener is checked when its tag closes. The ids that it waits for may then still be promised by
tags around it, which register their ids when they close themselves. Since the ids that are open
are just those of the tags around, every promise is kept at the end of the document.
-/

/-- Whether a listener runs a registered action and waits for nothing but some ids. -/
structure Listener.IsSound (actions : Actions) (ids : List String) (listener : Listener) :
    Prop where
  action : ∃ name ∈ actions.names, listener.action = some name
  ids : ∀ id ∈ listener.ids, id ∈ ids

namespace Listener.IsSound

variable {actions : Actions} {listener : Listener} {ids ids' openIds : List String}

theorem mono
    (isSound : listener.IsSound actions ids)
    (among : ids ⊆ ids') :
    listener.IsSound actions ids' :=
  ⟨isSound.action, fun id member => among (isSound.ids id member)⟩

/-- A listener stays sound when more ids are registered. -/
theorem grow
    (isSound : listener.IsSound actions (ids ++ openIds))
    (grows : ids ⊆ ids') :
    listener.IsSound actions (ids' ++ openIds) :=
  isSound.mono (List.append_subset.2
    ⟨List.Subset.trans grows (List.subset_append_left _ _), List.subset_append_right _ _⟩)

end Listener.IsSound

/-- The names of the registered actions are those under which one is found. -/
theorem Actions.mem_names_of_contains
    {actions : Actions}
    {reference : String}
    (registered : actions.contains reference = true) :
    bareName reference ∈ actions.names := by
  obtain ⟨action, found⟩ := Option.isSome_iff_exists.1 registered
  obtain ⟨before, after, entries, _⟩ := List.lookup_eq_some_iff.1 found
  unfold names
  rw [List.mem_mergeSort, entries]
  simp

namespace Widget

/-- The listeners of all widgets of a tree. -/
def listenersWithin (widget : Widget) : List Listener :=
  widget.postorder.flatMap listeners

theorem listenersWithin_eq
    (widget : Widget) :
    widget.listenersWithin =
      widget.children.flatMap listenersWithin ++ widget.listeners := by
  unfold listenersWithin
  rw [postorder_eq, List.flatMap_append, List.flatMap_assoc, List.flatMap_singleton]

/-- A label has no listeners. -/
theorem listenersWithin_label
    (text : String) :
    (label text).listenersWithin = [] := by
  rw [listenersWithin_eq]
  rfl

end Widget

/-- Whether an action brings no listener into a tree. -/
def Action.BringsNoListeners (action : Action) : Prop :=
  ∀ widget : Widget, (action.onWidget widget).1.listenersWithin ⊆ widget.listenersWithin

/-- Whether no registered action brings a listener into a tree. -/
def Actions.BringNoListeners (actions : Actions) : Prop :=
  ∀ name action, actions.find? name = some action → action.BringsNoListeners

namespace Target

/-- The listeners of all widgets that a target brings into a document. -/
def listenersWithin : Target → List Listener
  | .widget made => made.listenersWithin
  | .listener _ => []

/-- The listeners that a finished target brings into a document: one that is a listener itself is
taken in by a widget. -/
def listenersBrought : Target → List Listener
  | .widget made => made.listenersWithin
  | .listener made => [made]

end Target

section Effects

variable {target changed : Target}

/-- The listeners that an attribute adds run registered actions and wait for no others. -/
theorem AttributeEffect.listenersWithin
    {context : AttributeContext}
    {raw : String}
    (bring : context.actions.BringNoListeners)
    (effect : AttributeEffect context raw target changed) :
    ∀ listener ∈ changed.listenersWithin,
      listener ∈ target.listenersWithin ∨ listener.IsSound context.actions [] := by
  cases effect with
  | @writes widget changed _ sameBody =>
      have same : changed.listenersWithin = widget.listenersWithin := by
        rw [Widget.listenersWithin_eq, Widget.listenersWithin_eq, sameBody.children,
          sameBody.listeners]
      intro listener member
      change listener ∈ widget.listenersWithin ∨ _
      exact .inl (same ▸ member)
  | listens widget _ registered =>
      intro listener member
      change listener ∈ Widget.listenersWithin _ at member
      change listener ∈ Widget.listenersWithin _ ∨ _
      rw [Widget.listenersWithin_eq] at member ⊢
      rw [← List.append_assoc, List.mem_append, List.mem_singleton] at member
      refine member.imp (fun before => before) ?_
      rintro rfl
      exact ⟨⟨_, Actions.mem_names_of_contains registered, rfl⟩, List.forall_mem_nil _⟩
  | runs widget _ found =>
      exact fun listener member => .inl (bring _ _ found widget member)
  | fills =>
      exact List.forall_mem_nil _

namespace TagRule

/-- Text adds no listeners. -/
theorem TextEffect.listenersWithin
    {text : String}
    {explicit : Bool}
    (effect : TextEffect text explicit target changed) :
    changed.listenersWithin = target.listenersWithin := by
  cases effect with
  | letters widget =>
      change Widget.listenersWithin _ = Widget.listenersWithin _
      rw [Widget.listenersWithin_eq, Widget.listenersWithin_eq]
      rfl
  | labels widget _ _ children =>
      have noListeners (lines : List String) :
          (lines.map Widget.label).flatMap Widget.listenersWithin = [] :=
        List.flatMap_eq_nil_iff.2
          (List.forall_mem_map.2 fun line _ => Widget.listenersWithin_label line)
      change Widget.listenersWithin _ = Widget.listenersWithin _
      rw [Widget.listenersWithin_eq, Widget.listenersWithin_eq, children, List.flatMap_append,
        noListeners, List.append_nil]
  | names | ignored =>
      rfl

/-- What is taken in brings its listeners, and no others. -/
theorem TakingEffect.listenersWithin
    {taken : Target}
    (effect : TakingEffect taken target changed) :
    ∀ listener ∈ changed.listenersWithin,
      listener ∈ target.listenersWithin ∨ listener ∈ taken.listenersBrought := by
  intro listener member
  cases effect with
  | widget child widget _ children =>
      change listener ∈ Widget.listenersWithin _ at member
      change listener ∈ Widget.listenersWithin _ ∨ listener ∈ Widget.listenersWithin _
      rw [Widget.listenersWithin_eq, children, List.flatMap_append, List.flatMap_singleton,
        List.mem_append, List.mem_append] at member
      rw [Widget.listenersWithin_eq widget, List.mem_append]
      rcases member with (inside | brought) | own
      · exact .inl (.inl inside)
      · exact .inr brought
      · exact .inl (.inr own)
  | listener own widget =>
      change listener ∈ Widget.listenersWithin _ at member
      change listener ∈ Widget.listenersWithin _ ∨ _
      rw [Widget.listenersWithin_eq] at member ⊢
      rwa [← List.append_assoc, List.mem_append] at member

end TagRule

/-- A widget that takes something in keeps its id. -/
theorem TagRule.TakingEffect.id?
    {taken : Target}
    (effect : TakingEffect taken target changed) :
    changed.id? = target.id? := by
  cases effect <;> rfl

end Effects

/-- If all listeners inside a target are sound once the ids of the open tags and its own count, they
are sound once it has closed and the ids of the open tags count. -/
theorem Assembly.ClosingEffect.isSound
    {actions : Actions}
    (bring : actions.BringNoListeners)
    {openIds ids ids' : List String}
    {target closed : Target}
    (effect : ClosingEffect actions openIds ids ids' target closed)
    (sound :
      ∀ listener ∈ target.listenersWithin,
        listener.IsSound actions (ids ++ (openIds ++ target.id?.toList))) :
    ids ⊆ ids' ∧
      ∀ listener ∈ closed.listenersBrought, listener.IsSound actions (ids' ++ openIds) := by
  cases effect with
  | @widget widget changed _ registers runs =>
      have within : changed.listenersWithin ⊆ widget.listenersWithin :=
        runs.keeps (fun other => other.listenersWithin ⊆ widget.listenersWithin)
          (fun name action other found isWithin =>
            List.Subset.trans (bring name action found other) isWithin)
          (List.Subset.refl _)
      have kept : ids ++ (openIds ++ widget.id.toList) ⊆ ids' ++ openIds := by
        rw [registers, List.append_assoc]
        exact (List.perm_append_comm.append_left ids).subset
      rw [registers]
      refine ⟨List.subset_append_left _ _, fun listener member => ?_⟩
      rw [← registers]
      exact (sound listener (within member)).mono kept
  | listener listener sameIds named registered known =>
      refine ⟨sameIds ▸ List.Subset.refl _, List.forall_mem_singleton.2 ⟨?_, ?_⟩⟩
      · exact ⟨_, Actions.mem_names_of_contains registered, rfl⟩
      · intro id member
        exact List.mem_append.2 (sameIds ▸ known id member)

namespace Interpreter

variable {interpreter : Interpreter}

/-- A tag that is begun has sound listeners, which wait for no others. -/
theorem keepsTargets_isSound
    (bring : interpreter.actions.BringNoListeners) :
    interpreter.KeepsTargets fun target =>
      ∀ listener ∈ target.listenersWithin, listener.IsSound interpreter.actions [] where
  create isStandard made := by
    cases isStandard with
    | ofEvent event =>
        cases made
        exact List.forall_mem_nil _
    | ofKind kind =>
        obtain ⟨range, _, rfl⟩ := TagRule.createOfKind_eq_ok made
        change ∀ listener ∈ Widget.listenersWithin _, _
        rw [Widget.listenersWithin_eq]
        cases kind <;> exact List.forall_mem_nil _
  apply effect holds listener member :=
    (effect.listenersWithin bring listener member).elim (holds listener) id
  takeText effect holds := effect.listenersWithin ▸ holds

/-- What is built brings sound listeners, as long as the tags around it register their ids. -/
theorem buildSteps_isSound
    (bring : interpreter.actions.BringNoListeners) :
    interpreter.BuildSteps
      (fun openIds _ ids built ids' =>
        ids ⊆ ids' ∧
          ∀ target, built = some target →
            ∀ listener ∈ target.listenersBrought,
              listener.IsSound interpreter.actions (ids' ++ openIds))
      (fun openIds target _ ids filled ids' =>
        ids ⊆ ids' ∧ filled.id? = target.id? ∧
          ((∀ listener ∈ target.listenersWithin,
              listener.IsSound interpreter.actions (ids ++ openIds)) →
            ∀ listener ∈ filled.listenersWithin,
              listener.IsSound interpreter.actions (ids' ++ openIds))) where
  leftOut _ := ⟨List.Subset.refl _, nofun⟩
  closes _ isStandard begins children closing := by
    obtain ⟨grows, sameId, sound⟩ := children
    have begun := begins.keeps (keepsTargets_isSound bring) isStandard
    obtain ⟨closes, isSound⟩ := closing.isSound bring (sameId ▸ sound fun listener member =>
      (begun listener member).mono (List.nil_subset _))
    refine ⟨List.Subset.trans grows closes, ?_⟩
    rintro _ ⟨⟩
    exact isSound
  nil _ _ ids := ⟨List.Subset.refl ids, rfl, id⟩
  skips first rest := by
    obtain ⟨grows, sameId, sound⟩ := rest
    refine ⟨List.Subset.trans first.1 grows, sameId, fun holds => sound fun listener member => ?_⟩
    exact (holds listener member).grow first.1
  takes first taking rest := by
    obtain ⟨grows, sameId, sound⟩ := rest
    refine ⟨List.Subset.trans first.1 grows, sameId.trans taking.id?, fun holds => sound ?_⟩
    intro listener member
    rcases taking.listenersWithin listener member with before | brought
    · exact (holds listener before).grow first.1
    · exact first.2 _ rfl listener brought

theorem RootEffect.listenersWithin
    {target : Target}
    {roots placed : List Widget}
    (effect : RootEffect target roots placed) :
    ∀ listener ∈ placed.flatMap Widget.listenersWithin,
      listener ∈ roots.flatMap Widget.listenersWithin ∨ listener ∈ target.listenersBrought := by
  intro listener member
  cases effect with
  | widget widget roots =>
      rw [List.flatMap_cons, List.mem_append] at member
      exact member.symm
  | listener own previous others =>
      change _ ∨ listener ∈ [own]
      rw [List.flatMap_cons, Widget.listenersWithin_eq] at member
      rw [List.flatMap_cons, Widget.listenersWithin_eq]
      simp only [List.mem_append] at member ⊢
      rcases member with (inside | before | own) | other
      · exact .inl (.inl (.inl inside))
      · exact .inl (.inl (.inr before))
      · exact .inr own
      · exact .inl (.inr other)

/--
Integrity of listeners: with the vocabulary of the language and actions that bring in no listeners,
every listener of every widget of a document has an action, the name of which is registered, and
waits for ids of the document only.
-/
theorem isSound_of_runWithin
    (interpreter : Interpreter)
    (standard : interpreter.vocabulary = .standard)
    (bring : interpreter.actions.BringNoListeners)
    (imports : List String)
    (source : String)
    (document : Document)
    (ran : (interpreter.runWithin imports source).result = .ok document) :
    ∀ widget ∈ document.widgets,
      ∀ listener ∈ widget.listeners, listener.IsSound interpreter.actions document.ids := by
  obtain ⟨nodes, expanded, scope, journal, _, _, construction⟩ :=
    exists_construction_of_runWithin ran
  rw [construction] at ran
  have sound :
      ∀ listener ∈ document.roots.reverse.flatMap Widget.listenersWithin,
        listener.IsSound interpreter.actions (document.ids ++ []) := by
    refine runConstruction_eq_ok standard (buildSteps_isSound bring)
      (fun _ roots ids =>
        ∀ listener ∈ roots.flatMap Widget.listenersWithin,
          listener.IsSound interpreter.actions (ids ++ []))
      (fun holds first listener member => (holds listener member).grow first.1)
      (fun holds first placed listener member => ?_) (List.forall_mem_nil _) ran
    rcases placed.listenersWithin listener member with before | brought
    · exact (holds listener before).grow first.1
    · exact first.2 _ rfl listener brought
  rw [List.append_nil] at sound
  intro widget isWidget listener member
  obtain ⟨root, isRoot, inTree⟩ := List.mem_flatMap.1 isWidget
  exact sound listener (List.mem_flatMap.2
    ⟨root, List.mem_reverse.2 isRoot, List.mem_flatMap.2 ⟨widget, inTree, member⟩⟩)

/-- A listener may wait for a widget around it, which registers its id later. -/
theorem isSound_of_runWithin_enclosed :
    let hide : Action := { onWidget := fun widget => ({ widget with visible := false }, none) }
    let interpreter : Interpreter :=
      { vocabulary := .standard, actions := ({} : Actions).insert "hide" hide }
    let source :=
      "<group id=\"outer\"><label onShow=\"hide\"><onClick ids=\"outer\">hide</onClick></label></group>"
    interpreter.actions.BringNoListeners ∧
      ∃ document,
        (interpreter.runWithin [] source).result = .ok document ∧
          document.ids = ["outer"] ∧
          document.widgets.flatMap Widget.listeners =
            [{ event := .shown, action := some "hide" },
              { event := .click, action := some "hide", ids := ["outer"] }] ∧
          ∀ widget ∈ document.widgets,
            ∀ listener ∈ widget.listeners, listener.IsSound interpreter.actions document.ids := by
  intro hide interpreter source
  have bring : interpreter.actions.BringNoListeners := by
    intro name action found widget
    rw [Actions.eq_of_find?_insert found, Widget.listenersWithin_eq, Widget.listenersWithin_eq]
    exact List.Subset.refl _
  have built :
      (interpreter.runWithin [] source).result.toOption.map (fun document =>
        (document.ids, document.widgets.flatMap Widget.listeners)) =
          some (["outer"],
            [{ event := .shown, action := some "hide" },
              { event := .click, action := some "hide", ids := ["outer"] }]) := by
    decide +kernel
  obtain ⟨document, ran, seen⟩ := Run.exists_ok_of_seen built
  obtain ⟨ids, listeners⟩ := Prod.mk.inj seen
  exact ⟨bring, document, ran, ids, listeners,
    isSound_of_runWithin interpreter rfl bring [] source document ran⟩

end Interpreter

end WidgetMarkup
