import WidgetMarkup.Proofs.Construction.Alike
import WidgetMarkup.Proofs.Construction.AttributeRuns

namespace WidgetMarkup

/-!
# Attributes that replace what was written

Most attributes write a value into one place, where it replaces what was there. Blueprints or
widgets that differ in that place only become the same when such an attribute is applied, and all
other attributes keep it so. Those that run an action at once are left out: an action sees the
whole widget. A few attributes add something each time they are applied instead.
-/

/-- Whether what one function writes is beside what another one wrote before, or replaces it. -/
def Prevails {α β σ : Type} (write : α → σ → σ) (earlier : β → σ → σ) : Prop :=
  (∀ value value' state,
      write value (earlier value' state) = earlier value' (write value state)) ∨
    ∀ value value' state, write value (earlier value' state) = write value state

/-- States that become the same by what is written into them do so behind an earlier write. -/
theorem Prevails.agree
    {α β σ : Type}
    {write : α → σ → σ}
    {earlier : β → σ → σ}
    (prevails : Prevails write earlier)
    {value : α}
    {first second : σ}
    (agree : write value first = write value second)
    (value' : β) :
    write value (earlier value' first) = write value (earlier value' second) := by
  rcases prevails with beside | replaces
  · rw [beside, beside, agree]
  · rw [replaces, replaces, agree]

namespace BuildingRule

/-- Whether a rule makes the same of two blueprints, whatever it reads. -/
def AgreeBehind (rule : BuildingRule) (first second : Blueprint) : Prop :=
  ∀ raw, rule.apply raw first = rule.apply raw second

/-- Whether a rule replaces what it has written before, and makes the same of two blueprints also
when another attribute of the language is applied to both first. -/
structure Overwrites (rule : BuildingRule) : Prop where
  again :
    ∀ {raw before after}, rule.apply raw before = .ok after → rule.AgreeBehind after before
  behind :
    ∀ entry ∈ StandardAttribute.building, ∀ {raw before before' after},
      rule.AgreeBehind before before' → entry.2.apply raw before = .ok after →
        ∃ after', entry.2.apply raw before' = .ok after' ∧ rule.AgreeBehind after after'

/-- Whether a rule sets something that does not stand against what a function writes after it. -/
inductive YieldsTo {α : Type} (write : α → Blueprint → Blueprint) : BuildingRule → Prop where
  | setting
      {β : Type}
      {feature : Feature}
      {read : String → Except ValueError β}
      {earlier : β → Blueprint → Blueprint}
      (prevails : Prevails write earlier) :
      YieldsTo write (.setting feature read earlier)

section Setting

variable
  {α : Type}
  {feature : Feature}
  {read : String → Except ValueError α}
  {write : α → Blueprint → Blueprint}

theorem apply_setting_of_read
    {raw : String}
    {value : α}
    (isRead : read raw = .ok value)
    (blueprint : Blueprint) :
    (setting feature read write).apply raw blueprint = .ok (write value blueprint) := by
  simp only [setting, readValueWith, isRead]
  rfl

/-- An attribute makes the same of two blueprints if all values that it can read do. -/
theorem agreeBehind_setting_iff
    {first second : Blueprint} :
    (setting feature read write).AgreeBehind first second ↔
      ∀ raw value, read raw = .ok value → write value first = write value second := by
  constructor
  · intro agree raw value isRead
    have same := agree raw
    rwa [apply_setting_of_read isRead, apply_setting_of_read isRead, Except.ok.injEq] at same
  · intro agree raw
    cases isRead : read raw with
    | error problem =>
        simp only [setting, readValueWith, isRead]
        rfl
    | ok value =>
        rw [apply_setting_of_read isRead, apply_setting_of_read isRead, agree raw value isRead]

/-- An attribute replaces what it wrote if all attributes of the language yield to its values. -/
theorem overwrites_setting
    (again : ∀ value value' blueprint, write value (write value' blueprint) = write value blueprint)
    (yields : ∀ entry ∈ StandardAttribute.building, entry.2.YieldsTo write) :
    (setting feature read write).Overwrites where
  again ran := by
    obtain ⟨value', _, rfl⟩ := setting_eq_ok ran
    exact agreeBehind_setting_iff.2 fun _ value _ => again value value' _
  behind := by
    rintro ⟨names, other⟩ listed raw before before' after agree ran
    cases yields _ listed with
    | setting prevails =>
        obtain ⟨value', isRead, rfl⟩ := setting_eq_ok ran
        refine ⟨_, apply_setting_of_read isRead before', ?_⟩
        exact agreeBehind_setting_iff.2 fun raw value isRead =>
          prevails.agree (agreeBehind_setting_iff.1 agree raw value isRead) value'

end Setting

end BuildingRule

/-- All attributes of blueprints replace what they have written before. -/
theorem StandardAttribute.overwrites_of_mem_building :
    ∀ entry ∈ building, entry.2.Overwrites := by
  simp only [building, List.forall_mem_cons, List.mem_nil_iff, false_implies, implies_true,
    and_true]
  refine ⟨?style, ?text, ?vertical, ?horizontal, ?least, ?greatest, ?step, ?value⟩
  all_goals
    refine BuildingRule.overwrites_setting (fun _ _ _ => rfl) ?_
    simp only [building, List.forall_mem_cons, List.mem_nil_iff, false_implies, implies_true,
      and_true]
    refine ⟨?_, ?_, ?_, ?_, ?_, ?_, ?_, ?_⟩
  all_goals
    first
    | exact .setting (.inl fun _ _ _ => rfl)
    | exact .setting (.inr fun _ _ _ => rfl)

namespace Widget

/-- Whether widgets become the same by whatever a function writes into them, and have kind and
content in common before. -/
structure AgreeBehind {α : Type} (write : α → Widget → Widget) (first second : Widget) :
    Prop where
  kind : second.kind = first.kind
  content : second.content = first.content
  written : ∀ value, write value first = write value second

/-- Whether what a function writes into widgets is one of their properties beside kind and
content. -/
structure IsProperty {α : Type} (write : α → Widget → Widget) : Prop where
  kind : ∀ value widget, (write value widget).kind = widget.kind
  content : ∀ value widget, (write value widget).content = widget.content
  again : ∀ value value' widget, write value (write value' widget) = write value widget
  beside :
    ∀ value (widget : Widget) content,
      write value { widget with content } = { write value widget with content }

end Widget

namespace AttributeRule

open Declaration (creatingNames)

/-- Whether an attribute does something to widgets that does not stand against what a function
writes after it. -/
inductive YieldsTo {α : Type} (write : α → Widget → Widget) : AttributeRule → Prop where
  | onWidget
      {β : Type}
      {key : TargetKey}
      {read : AttributeContext → String → Except Problem β}
      {earlier : β → Widget → Widget}
      (kind : ∀ value widget, (earlier value widget).kind = widget.kind)
      (content : ∀ value widget, (earlier value widget).content = widget.content)
      (prevails : Prevails write earlier) :
      YieldsTo write (.onWidget key read earlier)
  | onListener
      {β : Type}
      (read : AttributeContext → String → Except Problem β)
      (earlier : β → Listener → Listener) :
      YieldsTo write (.onListener read earlier)
  | closing : YieldsTo write StandardAttribute.closing
  | cellDefaults (rule : CellRule) : YieldsTo write (.cellDefaults rule)

/-- Whether an attribute writes a property of widgets, and all attributes of the language yield to
it but those that run an action at once. -/
inductive Overwrites : AttributeRule → Prop where
  | setting
      {α : Type}
      {key : TargetKey}
      {read : String → Except ValueError α}
      {write : α → Widget → Widget}
      (isOfWidgets : key ≠ .listener)
      (isProperty : Widget.IsProperty write)
      (yields :
        ∀ entry ∈ StandardAttribute.target, entry.1 = creatingNames ∨ entry.2.YieldsTo write) :
      Overwrites (.setting key read write)

/-- Whether an attribute adds something each time it is applied: a listener, a run of an action or
an action to run when the tag closes. -/
inductive Accumulates : AttributeRule → Prop where
  | listening (event : ListenerEvent) : Accumulates (StandardAttribute.listening event)
  | running : Accumulates StandardAttribute.running
  | closing : Accumulates StandardAttribute.closing

variable
  {context : AttributeContext}
  {raw : String}
  {onClose : List String}
  {journal after : Journal}

theorem apply_onWidget_of_read
    {α : Type}
    {key : TargetKey}
    {read : AttributeContext → String → Except Problem α}
    {write : α → Widget → Widget}
    {value : α}
    (isRead : read context raw = .ok value)
    (widget : Widget)
    (onClose : List String)
    (journal : Journal) :
    (onWidget key read write).apply context raw ⟨.widget widget, onClose⟩ journal =
      .ok ⟨.widget (write value widget), onClose⟩ journal := by
  simp only [onWidget, isRead]
  rfl

theorem apply_cellDefaults_of_table
    {rule : CellRule}
    {widget : Widget}
    {table : Table Widget}
    {defaults : CellProperties}
    (held : widget.content = .table table)
    (written : rule.apply raw table.defaults = .ok defaults)
    (onClose : List String)
    (journal : Journal) :
    (cellDefaults rule).apply context raw ⟨.widget widget, onClose⟩ journal =
      .ok ⟨.widget { widget with content := .table { table with defaults } }, onClose⟩ journal := by
  cases widget
  cases held
  simp only [cellDefaults, AttributeContext.requireWidget, Logged.ofExcept, pure_bind, written]
  rfl

/-- An attribute that is applied to a widget and to what it makes the same with keeps them so. -/
theorem YieldsTo.apply
    {α : Type}
    {write : α → Widget → Widget}
    {rule : AttributeRule}
    {widget widget' : Widget}
    {workpiece : Workpiece}
    (yields : rule.YieldsTo write)
    (isProperty : Widget.IsProperty write)
    (agree : Widget.AgreeBehind write widget widget')
    (ran : rule.apply context raw ⟨.widget widget, onClose⟩ journal = .ok workpiece after) :
    ∃ changed changed',
      workpiece.target = .widget changed ∧ changed.kind = widget.kind ∧
        Widget.AgreeBehind write changed changed' ∧
        ∀ journal', journal.SameCalls journal' →
          ∃ after',
            rule.apply context raw ⟨.widget widget', onClose⟩ journal' =
              .ok ⟨.widget changed', workpiece.onClose⟩ after' ∧
            after.SameCalls after' := by
  cases yields with
  | @onWidget _ _ read earlier kind content prevails =>
      obtain ⟨value, _, isRead, _, _⟩ := onWidget_eq_ok ran
      rw [apply_onWidget_of_read isRead] at ran
      cases ran
      refine ⟨earlier value widget, earlier value widget', rfl, kind _ _, ⟨?_, ?_, ?_⟩,
        fun journal' same => ⟨journal', apply_onWidget_of_read isRead _ _ _, same⟩⟩
      · rw [kind, kind, agree.kind]
      · rw [content, content, agree.content]
      · exact fun value' => prevails.agree (agree.written value') value
  | onListener read earlier =>
      obtain ⟨_, _, _, ⟨⟩, _⟩ := onListener_eq_ok ran
  | closing =>
      obtain ⟨action, _, resolved, ran⟩ := bind_eq_ok ran
      cases ran
      refine ⟨widget, widget', rfl, rfl, agree, fun journal' same => ⟨journal', ?_, ?_⟩⟩
      · simp only [StandardAttribute.closing, Logged.ofExcept_eq_ok resolved]
        rfl
      · cases Logged.ofExcept_eq_ok resolved ▸ resolved
        exact same
  | cellDefaults rule =>
      obtain ⟨_, _, required, ran⟩ := bind_eq_ok ran
      cases required
      cases held : widget.content with
      | table table =>
          simp only [held] at ran
          obtain ⟨defaults, _, written, ran⟩ := bind_eq_ok ran
          have isWritten := Logged.ofExcept_eq_ok written
          cases isWritten ▸ written
          cases ran
          let content : Content Widget := .table { table with defaults }
          refine ⟨{ widget with content }, { widget' with content }, rfl, rfl,
            ⟨agree.kind, rfl, fun value => ?_⟩, fun journal' same => ⟨journal', ?_, same⟩⟩
          · rw [isProperty.beside, isProperty.beside, agree.written]
          · exact apply_cellDefaults_of_table (agree.content.trans held) isWritten _ _
      | leaf | single | children =>
          simp only [held] at ran
          cases ran

end AttributeRule

/-- An attribute of finished targets has one name, or adds something each time it is applied, or
writes a property of widgets to which the others yield. -/
theorem StandardAttribute.overwrites_of_mem_target :
    ∀ entry ∈ target,
      (∃ name, entry.1 = [name]) ∨ entry.2.Accumulates ∨ entry.2.Overwrites := by
  simp only [target, actor, capability, kind, listener, List.forall_mem_append,
    List.forall_mem_map, List.forall_mem_cons, List.mem_nil_iff, false_implies, implies_true,
    and_true]
  refine ⟨⟨⟨?actor, ?capability⟩, ?kind⟩, ?listener⟩
  case actor =>
    exact ⟨.inl ⟨_, rfl⟩, .inl ⟨_, rfl⟩, .inl ⟨_, rfl⟩, .inr (.inl (.listening .click)),
      .inr (.inl (.listening .change)), .inr (.inl (.listening .shown)), .inr (.inl .running),
      .inr (.inl .closing)⟩
  case listener =>
    exact ⟨.inl ⟨_, rfl⟩, .inl ⟨_, rfl⟩, .inl ⟨_, rfl⟩⟩
  case' capability =>
    refine ⟨⟨.inl ⟨_, rfl⟩, .inr (.inr ?disabled), .inl ⟨_, rfl⟩, .inl ⟨_, rfl⟩, .inl ⟨_, rfl⟩,
      .inr (.inr ?pad)⟩, fun side _ => .inl ⟨_, rfl⟩⟩
  case' kind =>
    refine ⟨.inl ⟨_, rfl⟩, .inl ⟨_, rfl⟩, .inl ⟨_, rfl⟩, .inr (.inr ?horizontal),
      .inr (.inr ?vertical), .inr (.inr ?scrolling)⟩
  -- Each of the five is compared with all attributes, its own name and those of sides included.
  all_goals
    refine .setting (by decide)
      ⟨fun _ _ => rfl, fun _ _ => rfl, fun _ _ _ => rfl, fun _ _ _ => rfl⟩ ?_
    simp only [target, actor, capability, kind, listener, List.forall_mem_append,
      List.forall_mem_map, List.forall_mem_cons, List.mem_nil_iff, false_implies, implies_true,
      and_true]
    refine ⟨⟨⟨⟨?_, ?_, ?_, ?_, ?_, ?_, .inl rfl, .inr .closing⟩,
      ⟨?_, ?_, ?_, ?_, ?_, ?_⟩, fun side _ => ?_⟩, ?_, ?_, ?_, ?_, ?_, ?_⟩,
      .inr (.onListener _ _), .inr (.onListener _ _), .inr (.onListener _ _)⟩
  all_goals
    refine .inr (.onWidget (fun _ _ => rfl) (fun _ _ => rfl) ?_)
    first
    | exact .inl fun _ _ _ => rfl
    | exact .inr fun _ _ _ => rfl

end WidgetMarkup
