import WidgetMarkup.Proofs.Construction.Leads
import WidgetMarkup.Proofs.Vocabulary.ListedAttributes
import WidgetMarkup.Proofs.Vocabulary.StandardRules

namespace WidgetMarkup

open Markup

/-!
# What rules make of targets

A rule of the language that succeeds changes its target in one of few ways. The ways are said here
once for each sort of rule, as far as later proofs ask; what a rule keeps follows from them.
-/

section Rules

variable {journal journal' : Journal}

namespace Actions

variable {actions : Actions} {reference : String}

/-- The action that is found among the actions with just one is that one. -/
theorem eq_of_find?_insert
    {name other : String}
    {action registered : Action}
    (found : (({} : Actions).insert name action).find? other = some registered) :
    registered = action := by
  change List.lookup other [(name, action)] = some registered at found
  rw [List.lookup_cons] at found
  split at found <;> cases found
  rfl

/-- A run of an action on a widget runs a registered action. -/
theorem invokeOn_eq_ok
    {widget : Widget}
    {answer : Widget × Option String}
    (ran : actions.invokeOn reference widget journal = .ok answer journal') :
    ∃ name action, actions.find? name = some action ∧ answer = action.onWidget widget := by
  obtain ⟨action, between, started, ran⟩ := bind_eq_ok ran
  cases ran
  unfold start at started
  cases found : actions.find? (bareName reference) with
  | none =>
      rw [found] at started
      cases started
  | some registered =>
      rw [found] at started
      obtain ⟨_, _, _, started⟩ := bind_eq_ok started
      obtain ⟨_, _, _, started⟩ := bind_eq_ok started
      obtain ⟨_, _, _, started⟩ := bind_eq_ok started
      cases started
      exact ⟨_, _, found, rfl⟩

/-- A run of an action on a target leaves a listener as it is. -/
theorem invokeOnTarget_eq_ok
    {target : Target}
    {answer : Target × Option String}
    (ran : actions.invokeOnTarget reference target journal = .ok answer journal') :
    (∃ listener, target = .listener listener ∧ answer.1 = .listener listener) ∨
      ∃ widget name action,
        target = .widget widget ∧ actions.find? name = some action ∧
          answer.1 = .widget (action.onWidget widget).1 := by
  cases target with
  | widget widget =>
      obtain ⟨changed, _, invoked, ran⟩ := bind_eq_ok ran
      cases ran
      obtain ⟨name, action, found, rfl⟩ := invokeOn_eq_ok invoked
      exact .inr ⟨widget, name, action, rfl, found, rfl⟩
  | listener listener =>
      obtain ⟨_, _, _, ran⟩ := bind_eq_ok ran
      cases ran
      exact .inl ⟨listener, rfl, rfl⟩

end Actions

/-- An attribute of blueprints writes the value that it reads. -/
theorem BuildingRule.setting_eq_ok
    {α : Type}
    {feature : Feature}
    {read : String → Except ValueError α}
    {write : α → Blueprint → Blueprint}
    {raw : String}
    {before after : Blueprint}
    (ran : (setting feature read write).apply raw before = .ok after) :
    ∃ value, read raw = .ok value ∧ after = write value before := by
  unfold setting readValueWith at ran
  cases isRead : read raw with
  | error problem =>
      simp only [isRead] at ran
      cases ran
  | ok value =>
      simp only [isRead] at ran
      cases ran
      exact ⟨value, rfl, rfl⟩

section Attributes

variable {context : AttributeContext} {raw : String} {workpiece workpiece' : Workpiece}

theorem AttributeContext.requireWidget_eq_ok
    {widget : Widget}
    (required : Logged.ofExcept (context.requireWidget workpiece) journal = .ok widget journal') :
    workpiece.target = .widget widget := by
  have isWidget := Logged.ofExcept_eq_ok required
  unfold requireWidget at isWidget
  cases made : workpiece.target <;> rw [made] at isWidget <;> cases isWidget
  rfl

theorem AttributeContext.requireListener_eq_ok
    {listener : Listener}
    (required :
      Logged.ofExcept (context.requireListener workpiece) journal = .ok listener journal') :
    workpiece.target = .listener listener := by
  have isListener := Logged.ofExcept_eq_ok required
  unfold requireListener at isListener
  cases made : workpiece.target <;> rw [made] at isListener <;> cases isListener
  rfl

namespace AttributeRule

theorem onWidget_eq_ok
    {α : Type}
    {key : TargetKey}
    {read : AttributeContext → String → Except Problem α}
    {write : α → Widget → Widget}
    (ran : (onWidget key read write).apply context raw workpiece journal =
      .ok workpiece' journal') :
    ∃ value widget,
      read context raw = .ok value ∧ workpiece.target = .widget widget ∧
        workpiece'.target = .widget (write value widget) := by
  obtain ⟨value, _, isRead, ran⟩ := bind_eq_ok ran
  obtain ⟨widget, _, required, ran⟩ := bind_eq_ok ran
  cases ran
  exact ⟨value, widget, Logged.ofExcept_eq_ok isRead,
    AttributeContext.requireWidget_eq_ok required, rfl⟩

theorem onListener_eq_ok
    {α : Type}
    {read : AttributeContext → String → Except Problem α}
    {write : α → Listener → Listener}
    (ran : (onListener read write).apply context raw workpiece journal =
      .ok workpiece' journal') :
    ∃ value listener,
      read context raw = .ok value ∧ workpiece.target = .listener listener ∧
        workpiece'.target = .listener (write value listener) := by
  obtain ⟨value, _, isRead, ran⟩ := bind_eq_ok ran
  obtain ⟨listener, _, required, ran⟩ := bind_eq_ok ran
  cases ran
  exact ⟨value, listener, Logged.ofExcept_eq_ok isRead,
    AttributeContext.requireListener_eq_ok required, rfl⟩

theorem cellDefaults_eq_ok
    {rule : CellRule}
    (ran : (cellDefaults rule).apply context raw workpiece journal = .ok workpiece' journal') :
    ∃ widget table defaults,
      workpiece.target = .widget widget ∧ widget.content = .table table ∧
        workpiece'.target =
          .widget { widget with content := .table { table with defaults } } := by
  obtain ⟨widget, _, required, ran⟩ := bind_eq_ok ran
  cases held : widget.content with
  | table table =>
      simp only [held] at ran
      obtain ⟨defaults, _, _, ran⟩ := bind_eq_ok ran
      cases ran
      exact ⟨widget, table, defaults, AttributeContext.requireWidget_eq_ok required, held, rfl⟩
  | leaf | single | children =>
      simp only [held] at ran
      cases ran

end AttributeRule

namespace StandardAttribute

theorem running_eq_ok
    (ran : running.apply context raw workpiece journal = .ok workpiece' journal') :
    (∃ listener, workpiece.target = .listener listener ∧
        workpiece'.target = .listener listener) ∨
      ∃ widget name action,
        workpiece.target = .widget widget ∧ context.actions.find? name = some action ∧
          workpiece'.target = .widget (action.onWidget widget).1 := by
  obtain ⟨answer, _, invoked, ran⟩ := bind_eq_ok ran
  cases ran
  exact Actions.invokeOnTarget_eq_ok invoked

theorem closing_eq_ok
    (ran : closing.apply context raw workpiece journal = .ok workpiece' journal') :
    workpiece'.target = workpiece.target := by
  obtain ⟨action, _, _, ran⟩ := bind_eq_ok ran
  cases ran
  rfl

end StandardAttribute

/-- What an attribute of the language makes of a target. -/
inductive AttributeEffect (context : AttributeContext) (raw : String) : Target → Target → Prop where
  | writes
      {widget changed : Widget}
      (silent : ListenerEvent.ofAttribute? context.name = none)
      (sameBody : widget.SameBody changed)
      (fits : widget.FitsKind → changed.FitsKind) :
      AttributeEffect context raw (.widget widget) (.widget changed)
  | listens
      {event : ListenerEvent}
      (widget : Widget)
      (named : ListenerEvent.ofAttribute? context.name = some event)
      (registered : context.actions.contains raw) :
      AttributeEffect context raw (.widget widget)
        (.widget
          { widget with
            listeners :=
              widget.listeners ++ [{ event, action := some (Actions.bareName raw) }] })
  | runs
      {name : String}
      {action : Action}
      (widget : Widget)
      (silent : ListenerEvent.ofAttribute? context.name = none)
      (found : context.actions.find? name = some action) :
      AttributeEffect context raw (.widget widget) (.widget (action.onWidget widget).1)
  | fills (listener : Listener) :
      AttributeEffect context raw (.listener listener)
        (.listener (listener.written context.separator context.name raw))

/-- An attribute that is found for a target and can be applied does one of these things. -/
theorem AttributeEffect.of_resolve_standard
    {rule : AttributeRule}
    (found : Vocabulary.standard.resolve workpiece.target.ancestry context.name = .found rule)
    (ran : rule.apply context raw workpiece journal = .ok workpiece' journal') :
    AttributeEffect context raw workpiece.target workpiece'.target := by
  obtain ⟨key, names, listed, isListed⟩ := Vocabulary.isListed_of_resolve_standard found
  cases isListed with
  | setting silent keeps fits =>
      obtain ⟨value, widget, _, made, changed⟩ := AttributeRule.onWidget_eq_ok ran
      rw [made] at key
      rw [made, changed]
      exact .writes (ListenerEvent.ofAttribute?_of_lists silent listed) (keeps value widget)
        (fits value widget key)
  | listening event =>
      obtain ⟨value, widget, isRead, made, changed⟩ := AttributeRule.onWidget_eq_ok ran
      obtain ⟨registered, rfl⟩ := Actions.resolve_eq_ok isRead
      have named := ListenerEvent.ofAttribute?_of_lists event.ofAttribute?_attributeNames listed
      rw [made, changed]
      exact .listens widget named registered
  | onListener writes =>
      obtain ⟨value, listener, isRead, made, changed⟩ := AttributeRule.onListener_eq_ok ran
      rw [made, changed, writes listener listed isRead]
      exact .fills listener
  | running =>
      obtain ⟨listener, made, _⟩ | ⟨widget, name, action, made, registered, changed⟩ :=
        StandardAttribute.running_eq_ok ran
      · rw [made] at key
        simp [Target.ancestry, StandardAttribute.running] at key
      · rw [made, changed]
        exact .runs widget (ListenerEvent.ofAttribute?_of_lists (by decide +kernel) listed)
          registered
  | closing =>
      rw [StandardAttribute.closing_eq_ok ran]
      cases made : workpiece.target with
      | listener listener =>
          rw [made] at key
          simp [Target.ancestry, StandardAttribute.closing] at key
      | widget widget =>
          exact .writes (ListenerEvent.ofAttribute?_of_lists (by decide +kernel) listed)
            ⟨rfl, rfl, rfl, rfl, rfl, rfl⟩ id
  | cellDefaults rule silent =>
      obtain ⟨widget, table, defaults, made, held, changed⟩ := AttributeRule.cellDefaults_eq_ok ran
      rw [made, changed]
      have shape : (Content.table { table with defaults }).shape = widget.content.shape := by
        rw [held]
        rfl
      have fits (fits : widget.FitsKind) :
          Widget.FitsKind { widget with content := .table { table with defaults } } :=
        { fits with content := shape.trans fits.content }
      refine .writes (ListenerEvent.ofAttribute?_of_lists silent listed)
        ⟨rfl, rfl, rfl, rfl, shape, ?_⟩ fits
      unfold Widget.children
      rw [held]
      rfl

end Attributes

namespace TagRule

/-- A widget that is made of a kind takes from its blueprint what the kind can have. -/
theorem createOfKind_eq_ok
    {kind : WidgetKind}
    {blueprint : Blueprint}
    {target : Target}
    (made : createOfKind kind blueprint = .ok target) :
    ∃ range : Option ValueRange,
      (range.isSome ↔ kind.has .rangeValued) ∧
        target =
          .widget
            { Widget.ofKind kind with
              style := blueprint.style
              text := if kind.has .textBearing then blueprint.text else none
              range
              vertical := kind.has .rangeValued && blueprint.vertical.getD false } := by
  unfold createOfKind at made
  dsimp only at made
  cases ranged : kind.has .rangeValued with
  | false =>
      rw [if_neg (by rw [ranged]; nofun)] at made
      cases made
      refine ⟨none, ⟨nofun, nofun⟩, ?_⟩
      cases kind.has .textBearing <;> rfl
  | true =>
      rw [if_pos ranged] at made
      cases resolved : blueprint.range.resolve.mapError Problem.construction with
      | error problem =>
          rw [resolved] at made
          cases made
      | ok range =>
          rw [resolved] at made
          cases made
          refine ⟨some range, ⟨fun _ => rfl, fun _ => rfl⟩, ?_⟩
          cases kind.has .textBearing <;> rfl

theorem cells_addLabelRows
    (lines : List String)
    (table : Table Widget) :
    (addLabelRows lines table).cells.map Cell.widget =
      table.cells.map Cell.widget ++ lines.map Widget.label := by
  unfold addLabelRows
  induction lines generalizing table with
  | nil =>
      exact (List.append_nil _).symm
  | cons first rest inductionHypothesis =>
      rw [List.foldl_cons, inductionHypothesis, Table.cells_add, List.map_append,
        List.append_assoc]
      rfl

/-- The labels that a text makes stand behind what a widget held. -/
theorem addTextLabels_eq_ok
    {text : String}
    {widget changed : Widget}
    (added : addTextLabels text widget = .ok changed) :
    ∃ content : Content Widget,
      changed = { widget with content } ∧
        content.shape = widget.content.shape ∧
        changed.children =
          widget.children ++ (widget.content.shape.labelTexts text).map Widget.label := by
  unfold addTextLabels at added
  unfold Widget.children
  cases held : widget.content with
  | table table =>
      rw [held] at added
      cases added
      exact ⟨_, rfl, rfl, cells_addLabelRows _ table⟩
  | children inside =>
      rw [held] at added
      cases added
      exact ⟨_, rfl, rfl, rfl⟩
  | single child =>
      cases child <;> rw [held] at added <;> cases added
      exact ⟨_, rfl, rfl, rfl⟩
  | leaf =>
      rw [held] at added
      cases added

/-- What a tag of the language makes of a target and the text inside it. -/
inductive TextEffect (text : String) (explicit : Bool) : Target → Target → Prop where
  | names (listener : Listener) :
      TextEffect text explicit (.listener listener)
        (.listener { listener with action := listener.action.or (some (Text.trim text)) })
  | letters
      (widget : Widget)
      (bearsText : widget.kind.has .textBearing = true)
      (unsaid : explicit = false) :
      TextEffect text explicit (.widget widget) (.widget { widget with text := some text })
  | ignored
      (widget : Widget)
      (bearsText : widget.kind.has .textBearing = true)
      (given : explicit = true) :
      TextEffect text explicit (.widget widget) (.widget widget)
  | labels
      {content : Content Widget}
      (widget : Widget)
      (bearsNone : widget.kind.has .textBearing = false)
      (shape : content.shape = widget.content.shape)
      (children :
        Widget.children { widget with content } =
          widget.children ++ (widget.content.shape.labelTexts text).map Widget.label) :
      TextEffect text explicit (.widget widget) (.widget { widget with content })

theorem TextEffect.of_takeText
    {rule : TagRule}
    (isStandard : rule.IsStandard)
    {text : String}
    {explicit : Bool}
    {target changed : Target}
    (ran : rule.takeText text explicit target journal = .ok changed journal') :
    TextEffect text explicit target changed := by
  have ran : takeTextByDefault text explicit target journal = .ok changed journal' := by
    cases isStandard <;> exact ran
  unfold takeTextByDefault at ran
  cases target with
  | listener listener =>
      have effect : TextEffect text explicit (.listener listener) _ := .names listener
      cases named : listener.action with
      | none =>
          rw [named] at effect
          simp only [named, Option.isNone_none, ↓reduceIte] at ran
          cases ran
          exact effect
      | some action =>
          rw [named, Option.some_or, ← named] at effect
          simp only [named, Option.isNone_some, Bool.false_eq_true, ↓reduceIte] at ran
          cases ran
          exact effect
  | widget widget =>
      cases bearsText : widget.kind.has .textBearing with
      | true =>
          simp only [bearsText, ↓reduceIte] at ran
          cases given : explicit with
          | true =>
              rw [given] at ran
              obtain ⟨_, _, _, ran⟩ := bind_eq_ok ran
              cases ran
              exact .ignored widget bearsText rfl
          | false =>
              rw [given] at ran
              cases ran
              exact .letters widget bearsText rfl
      | false =>
          simp only [bearsText, Bool.false_eq_true, ↓reduceIte] at ran
          obtain ⟨filled, _, added, ran⟩ := bind_eq_ok ran
          cases ran
          obtain ⟨content, rfl, shape, children⟩ :=
            addTextLabels_eq_ok (Logged.ofExcept_eq_ok added)
          exact .labels widget bearsText shape children

/-- What a target becomes by taking in what another tag has made. -/
inductive TakingEffect : Target → Target → Target → Prop where
  | widget
      {content : Content Widget}
      (child widget : Widget)
      (shape : content.shape = widget.content.shape)
      (children : Widget.children { widget with content } = widget.children ++ [child]) :
      TakingEffect (.widget child) (.widget widget) (.widget { widget with content })
  | listener
      (listener : Listener)
      (widget : Widget) :
      TakingEffect (.listener listener) (.widget widget)
        (.widget { widget with listeners := widget.listeners ++ [listener] })

theorem TakingEffect.of_takeWidgetByDefault
    {child : Widget}
    {cell : CellProperties}
    {target changed : Target}
    (taken : takeWidgetByDefault child cell target = .ok changed) :
    TakingEffect (.widget child) target changed := by
  unfold takeWidgetByDefault at taken
  cases target with
  | listener listener =>
      cases taken
  | widget widget =>
      have isHeld : widget.children = widget.content.widgets := rfl
      dsimp only at taken
      cases held : widget.content with
      | table table =>
          rw [held] at isHeld taken
          cases taken
          refine .widget child widget (by rw [held]; rfl) ?_
          change (table.add child cell).cells.map Cell.widget = _
          rw [isHeld, Table.cells_add, List.map_append]
          rfl
      | children inside =>
          rw [held] at isHeld taken
          cases taken
          exact .widget child widget (by rw [held]; rfl) (isHeld ▸ rfl)
      | single other =>
          rw [held] at isHeld taken
          cases other <;> cases taken
          exact .widget child widget (by rw [held]; rfl) (isHeld ▸ rfl)
      | leaf =>
          rw [held] at taken
          cases taken

theorem TakingEffect.of_taking
    {rule : TagRule}
    (isStandard : rule.IsStandard)
    {child : ClosedTag}
    {target changed : Target}
    (taken : Assembly.taking rule child target = .ok changed) :
    TakingEffect child.target target changed := by
  unfold Assembly.taking at taken
  cases made : child.target with
  | widget inside =>
      rw [made] at taken
      have taken : takeWidgetByDefault inside child.cell target = .ok changed := by
        cases isStandard <;> exact taken
      exact .of_takeWidgetByDefault taken
  | listener listener =>
      rw [made] at taken
      cases target with
      | listener other =>
          cases taken
      | widget widget =>
          cases taken
          exact .listener listener widget

end TagRule

end Rules

/-- What a widget becomes by running registered actions on it, one after another. -/
inductive Actions.RunsTo (actions : Actions) : Widget → Widget → Prop where
  | nothing (widget : Widget) : RunsTo actions widget widget
  | next
      {name : String}
      {action : Action}
      {widget changed : Widget}
      (found : actions.find? name = some action)
      (rest : RunsTo actions (action.onWidget widget).1 changed) :
      RunsTo actions widget changed

/-- What every registered action keeps is kept by running several. -/
theorem Actions.RunsTo.keeps
    {actions : Actions}
    (holds : Widget → Prop)
    (each :
      ∀ name action widget,
        actions.find? name = some action → holds widget → holds (action.onWidget widget).1)
    {widget changed : Widget}
    (runs : actions.RunsTo widget changed)
    (before : holds widget) :
    holds changed := by
  induction runs with
  | nothing widget =>
      exact before
  | next found rest inductionHypothesis =>
      exact inductionHypothesis (each _ _ _ found before)

theorem Registration.logged_eq_ok
    {α : Type}
    {path : TagPath}
    {register register' : Register}
    {inner : Logged α}
    {value : α}
    (ran : Registration.logged path inner register = .ok value register') :
    register'.ids = register.ids ∧
      ∃ journal', inner register.journal = .ok value journal' := by
  unfold Registration.logged at ran
  cases given : inner register.journal with
  | ok value' journal' =>
      rw [given] at ran
      cases ran
      exact ⟨rfl, journal', rfl⟩
  | error problem journal' =>
      rw [given] at ran
      cases ran

/-- A step of the work on a tag registers nothing and does what it leads to. -/
theorem Registration.work_eq_ok
    {register register' : Register}
    {assembly result : Assembly}
    {step : Work Unit}
    (before : Assembly → Prop)
    {after : Assembly → Prop}
    (leads : Work.Leads before step fun _ => after)
    (ran : Registration.work assembly step register = .ok result register')
    (isBefore : before assembly) :
    register'.ids = register.ids ∧ after result := by
  unfold Registration.work at ran
  cases given : step ⟨assembly, register.journal⟩ with
  | ok _ bench =>
      rw [given] at ran
      cases ran
      exact ⟨rfl, leads _ () bench isBefore given⟩
  | error problem bench =>
      rw [given] at ran
      cases ran

namespace Assembly

variable {path : TagPath} {actions : Actions} {register register' : Register}

/-- What a target becomes when its tag closes, and what that registers. -/
inductive ClosingEffect
    (actions : Actions)
    (openIds ids ids' : List String) :
    Target → Target → Prop where
  | widget
      {widget changed : Widget}
      (isNew : ∀ id, widget.id = some id → id ∉ ids)
      (registers : ids' = ids ++ widget.id.toList)
      (runs : actions.RunsTo widget changed) :
      ClosingEffect actions openIds ids ids' (.widget widget) (.widget changed)
  | listener
      {reference : String}
      (listener : Listener)
      (sameIds : ids' = ids)
      (named : listener.action = some reference)
      (registered : actions.contains reference)
      (known : ∀ id ∈ listener.ids, id ∈ ids ∨ id ∈ openIds) :
      ClosingEffect actions openIds ids ids' (.listener listener)
        (.listener { listener with action := some (Actions.bareName reference) })

theorem registerId_eq_ok
    {widget : Widget}
    (ran : registerId path widget register = .ok () register') :
    (∀ id, widget.id = some id → id ∉ register.ids) ∧
      register'.ids = register.ids ++ widget.id.toList := by
  unfold registerId at ran
  cases identified : widget.id with
  | none =>
      rw [identified] at ran
      cases ran
      exact ⟨nofun, (List.append_nil _).symm⟩
  | some id =>
      rw [identified] at ran
      obtain ⟨seen, _, looked, ran⟩ := bind_eq_ok ran
      cases looked
      split at ran
      · cases ran
      · rename_i isNew
        cases ran
        rw [List.contains_iff_mem] at isNew
        refine ⟨?_, rfl⟩
        rintro _ ⟨⟩
        exact isNew

theorem runOnClose_eq_ok
    {widget changed : Widget}
    {closing : List String}
    (ran : runOnClose path actions widget closing register = .ok changed register') :
    register'.ids = register.ids ∧ actions.RunsTo widget changed := by
  induction closing generalizing widget register with
  | nil =>
      cases ran
      exact ⟨rfl, .nothing _⟩
  | cons first rest inductionHypothesis =>
      obtain ⟨answer, between, invoked, ran⟩ := bind_eq_ok ran
      obtain ⟨sameIds, _, invoked⟩ := Registration.logged_eq_ok invoked
      obtain ⟨name, action, found, rfl⟩ := Actions.invokeOn_eq_ok invoked
      obtain ⟨restIds, runs⟩ := inductionHypothesis ran
      exact ⟨restIds.trans sameIds, .next found runs⟩

theorem checkListener_eq_ok
    {openIds : List String}
    {listener checked : Listener}
    (ran : checkListener path openIds actions listener register = .ok checked register') :
    ClosingEffect actions openIds register.ids register'.ids (.listener listener)
      (.listener checked) := by
  unfold checkListener at ran
  cases named : listener.action with
  | none =>
      rw [named] at ran
      cases ran
  | some reference =>
      rw [named] at ran
      obtain ⟨action, between, resolved, ran⟩ := bind_eq_ok ran
      obtain ⟨sameIds, _, resolved⟩ := Registration.logged_eq_ok resolved
      obtain ⟨registered, rfl⟩ := Actions.resolve_eq_ok (Logged.ofExcept_eq_ok resolved)
      obtain ⟨seen, _, looked, ran⟩ := bind_eq_ok ran
      cases looked
      cases missing :
          listener.ids.find? fun id => !between.ids.contains id && !openIds.contains id with
      | some id =>
          simp only [missing] at ran
          cases ran
      | none =>
          simp only [missing] at ran
          cases ran
          refine .listener listener sameIds named registered fun id member => ?_
          have isKnown := List.find?_eq_none.1 missing id member
          simp only [Bool.and_eq_true, Bool.not_eq_true', ← Bool.not_eq_true,
            List.contains_iff_mem, not_and_or, not_not, sameIds] at isKnown
          exact isKnown

/-- A tag that closes registers its id and runs its actions, or checks its listener. -/
theorem close_eq_ok
    {assembly : Assembly}
    {openIds : List String}
    {closed : ClosedTag}
    (ran : assembly.close openIds actions register = .ok closed register') :
    ∃ target,
      assembly.target = some target ∧
        ClosingEffect actions openIds register.ids register'.ids target closed.target := by
  unfold close at ran
  dsimp only at ran
  cases made : assembly.target with
  | none =>
      rw [made] at ran
      cases ran
  | some target =>
      rw [made] at ran
      refine ⟨target, rfl, ?_⟩
      cases target with
      | widget widget =>
          obtain ⟨_, registered, identified, ran⟩ := bind_eq_ok ran
          obtain ⟨changed, between, closing, ran⟩ := bind_eq_ok ran
          cases ran
          obtain ⟨isNew, ids⟩ := registerId_eq_ok identified
          obtain ⟨sameIds, runs⟩ := runOnClose_eq_ok closing
          exact .widget isNew (sameIds.trans ids) runs
      | listener listener =>
          obtain ⟨checked, between, isChecked, ran⟩ := bind_eq_ok ran
          cases ran
          have effect := checkListener_eq_ok isChecked
          exact effect

end Assembly

end WidgetMarkup
