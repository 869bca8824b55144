import WidgetMarkup.Proofs.Expansion.Filling
import WidgetMarkup.Proofs.Vocabulary.StandardRules

namespace WidgetMarkup

/-!
# What the rules of the language fail with

Tags and attributes may be refused for many reasons, but a rule for them neither halts the engine
nor fails as if it expanded anything. What a part of a run fails with is said together with what it
leads to.
-/

/-- Whether a problem is one that tags, attributes and actions are refused with. -/
def Problem.isRefusal : Problem → Bool
  | .unknownTag _ | .unknownAttribute _ | .unsupportedAttribute _ _ | .badValue _
  | .construction _ | .unknownAction _ => true
  | .markupFault _ | .unknownMacro _ | .interpolation _ _ | .tooDeep _ | .tooLarge _
  | .importCycle _ | .templateNotFound _ | .thrown _ => false

/-- A refusal does not halt the engine. -/
theorem Problem.isHalt_of_isRefusal
    {problem : Problem}
    (isRefusal : problem.isRefusal = true) :
    problem.isHalt = false := by
  cases problem <;> first | rfl | cases isRefusal

/-- What a part of a run leads to from states of one condition: values and states of another, or
problems that are allowed. -/
def EndsIn
    {ε σ α : Type}
    (allowed : ε → Prop)
    (before : σ → Prop)
    (part : EStateM ε σ α)
    (after : α → σ → Prop) :
    Prop :=
  ∀ state,
    before state →
      match part state with
      | .ok value state' => after value state'
      | .error problem _ => allowed problem

namespace EndsIn

variable
  {ε σ α β : Type}
  {allowed : ε → Prop}
  {before : σ → Prop}
  {part : EStateM ε σ α}
  {after : α → σ → Prop}

theorem pure
    {value : α}
    (holds : ∀ state, before state → after value state) :
    EndsIn allowed before (Pure.pure value) after :=
  holds

theorem bind
    {next : α → EStateM ε σ β}
    {final : β → σ → Prop}
    (first : EndsIn allowed before part after)
    (nexts : ∀ value, EndsIn allowed (after value) (next value) final) :
    EndsIn allowed before (part >>= next) final := by
  intro state isBefore
  have ends := first state isBefore
  simp only [Bind.bind, EStateM.bind]
  cases ran : part state with
  | ok value between =>
      rw [ran] at ends
      exact nexts value between ends
  | error problem between =>
      rw [ran] at ends
      exact ends

/-- What looks at the state first may rely on what holds of it. -/
theorem get_bind
    {next : σ → EStateM ε σ α}
    (nexts : ∀ state, before state → EndsIn allowed before (next state) after) :
    EndsIn allowed before (get >>= next) after :=
  fun state isBefore => nexts state isBefore state isBefore

/-- What holds of every success is what the part leads to. -/
theorem of_ok
    {after' : α → σ → Prop}
    (ends : EndsIn allowed before part after)
    (succeeds :
      ∀ state value state', before state → part state = .ok value state' → after' value state') :
    EndsIn allowed before part after' := by
  intro state isBefore
  have ended := ends state isBefore
  cases ran : part state with
  | ok value state' =>
      exact succeeds state value state' isBefore ran
  | error problem state' =>
      rw [ran] at ended
      exact ended

end EndsIn

namespace Logged

/-- Whether work with the journal fails only with refusals. -/
def IsPlain {α : Type} (inner : Logged α) : Prop :=
  EndsIn (fun problem => problem.isRefusal = true) (fun _ => True) inner fun _ _ => True

variable {α β : Type}

theorem IsPlain.pure
    (value : α) :
    IsPlain (Pure.pure value) :=
  EndsIn.pure fun _ _ => trivial

theorem IsPlain.bind
    {first : Logged α}
    {next : α → Logged β}
    (firstPlain : first.IsPlain)
    (nextPlain : ∀ value, (next value).IsPlain) :
    IsPlain (first >>= next) :=
  EndsIn.bind firstPlain nextPlain

theorem IsPlain.record
    (level : LogLevel)
    (text : String) :
    IsPlain (Logged.record level text) :=
  fun _ _ => trivial

theorem isPlain_ofExcept
    {outcome : Except Problem α}
    (refuses : ∀ problem, outcome = .error problem → problem.isRefusal = true) :
    IsPlain (ofExcept outcome) := by
  intro journal _
  cases outcome with
  | ok value =>
      trivial
  | error problem =>
      exact refuses problem rfl

end Logged

namespace Actions

variable (actions : Actions) (reference : String)

theorem isPlain_start
    (widget : Option Widget) :
    (actions.start reference widget).IsPlain := by
  unfold start
  dsimp only
  split
  · exact fun _ _ => rfl
  · refine (Logged.IsPlain.record _ _).bind fun _ => ?_
    refine Logged.IsPlain.bind (fun _ _ => trivial) fun _ => ?_
    refine Logged.IsPlain.bind (fun journal _ => ?_) fun _ => .pure _
    obtain ⟨after, ran⟩ := Logged.exists_forM_record _ journal
    rw [ran]
    trivial

theorem isPlain_invokeOn
    (widget : Widget) :
    (actions.invokeOn reference widget).IsPlain :=
  (actions.isPlain_start reference (some widget)).bind fun _ => .pure _

theorem isPlain_invokeOnTarget
    (target : Target) :
    (actions.invokeOnTarget reference target).IsPlain := by
  cases target with
  | widget widget =>
      exact (actions.isPlain_invokeOn reference widget).bind fun _ => .pure _
  | listener listener =>
      exact ((actions.isPlain_start reference none).bind fun _ => .pure _).bind fun _ => .pure _

theorem isPlain_resolve :
    (Logged.ofExcept (actions.resolve reference)).IsPlain := by
  refine Logged.isPlain_ofExcept fun problem failed => ?_
  unfold resolve at failed
  split at failed <;> cases failed
  rfl

end Actions

/-- Reading a value fails because the value is bad. -/
theorem isRefusal_of_readValueWith
    {α : Type}
    {read : String → Except ValueError α}
    {raw : String}
    {problem : Problem}
    (failed : readValueWith read raw = .error problem) :
    problem.isRefusal = true := by
  unfold readValueWith at failed
  cases isRead : read raw <;> rw [isRead] at failed <;> cases failed
  rfl

/-- What is done with a value that was read fails only if reading does. -/
theorem eq_error_of_read
    {ε α β : Type}
    {isRead : Except ε α}
    {write : α → β}
    {problem : ε}
    (failed : (isRead >>= fun value => pure (write value)) = .error problem) :
    isRead = .error problem := by
  cases isRead <;> cases failed
  rfl

theorem BuildingRule.isRefusal_of_setting
    {α : Type}
    {feature : Feature}
    {read : String → Except ValueError α}
    {write : α → Blueprint → Blueprint}
    {raw : String}
    {blueprint : Blueprint}
    {problem : Problem}
    (failed : (setting feature read write).apply raw blueprint = .error problem) :
    problem.isRefusal = true :=
  isRefusal_of_readValueWith (eq_error_of_read failed)

theorem CellRule.isRefusal_of_setting
    {α : Type}
    {read : String → Except ValueError α}
    {write : α → CellProperties → CellProperties}
    {raw : String}
    {cell : CellProperties}
    {problem : Problem}
    (failed : (setting read write).apply raw cell = .error problem) :
    problem.isRefusal = true :=
  isRefusal_of_readValueWith (eq_error_of_read failed)

namespace AttributeRule

/-- Whether a rule fails only with refusals, whatever it is applied to. -/
def IsPlain (rule : AttributeRule) : Prop :=
  ∀ context raw workpiece, (rule.apply context raw workpiece).IsPlain

theorem isPlain_requireWidget
    (context : AttributeContext)
    (workpiece : Workpiece) :
    (Logged.ofExcept (context.requireWidget workpiece)).IsPlain := by
  refine Logged.isPlain_ofExcept fun problem failed => ?_
  unfold AttributeContext.requireWidget at failed
  split at failed <;> cases failed
  rfl

theorem isPlain_requireListener
    (context : AttributeContext)
    (workpiece : Workpiece) :
    (Logged.ofExcept (context.requireListener workpiece)).IsPlain := by
  refine Logged.isPlain_ofExcept fun problem failed => ?_
  unfold AttributeContext.requireListener at failed
  split at failed <;> cases failed
  rfl

theorem isPlain_onWidget
    {α : Type}
    {key : TargetKey}
    {read : AttributeContext → String → Except Problem α}
    {write : α → Widget → Widget}
    (reads : ∀ context raw, (Logged.ofExcept (read context raw)).IsPlain) :
    (onWidget key read write).IsPlain :=
  fun context raw workpiece =>
    (reads context raw).bind fun _ => (isPlain_requireWidget context workpiece).bind fun _ =>
      .pure _

theorem isPlain_onListener
    {α : Type}
    {read : AttributeContext → String → Except Problem α}
    {write : α → Listener → Listener}
    (reads : ∀ context raw, (Logged.ofExcept (read context raw)).IsPlain) :
    (onListener read write).IsPlain :=
  fun context raw workpiece =>
    (reads context raw).bind fun _ => (isPlain_requireListener context workpiece).bind fun _ =>
      .pure _

theorem isPlain_setting
    {α : Type}
    (key : TargetKey)
    (read : String → Except ValueError α)
    (write : α → Widget → Widget) :
    (setting key read write).IsPlain :=
  isPlain_onWidget fun _ _ =>
    Logged.isPlain_ofExcept fun _ failed => isRefusal_of_readValueWith failed

theorem isPlain_cellDefaults
    {rule : CellRule}
    (refuses :
      ∀ raw cell problem, rule.apply raw cell = .error problem → problem.isRefusal = true) :
    (cellDefaults rule).IsPlain := by
  intro context raw workpiece
  refine (isPlain_requireWidget context workpiece).bind fun widget => ?_
  split
  · exact (Logged.isPlain_ofExcept (refuses _ _)).bind fun _ => .pure _
  · exact fun _ _ => rfl

end AttributeRule

namespace StandardAttribute

open AttributeRule (isPlain_setting)

theorem isPlain_listening
    (event : ListenerEvent) :
    (listening event).IsPlain :=
  AttributeRule.isPlain_onWidget fun context raw => context.actions.isPlain_resolve raw

theorem isPlain_running :
    running.IsPlain :=
  fun context raw workpiece =>
    (context.actions.isPlain_invokeOnTarget raw workpiece.target).bind fun _ => .pure _

theorem isPlain_closing :
    closing.IsPlain :=
  fun context raw _ => (context.actions.isPlain_resolve raw).bind fun _ => .pure _

/-- The attributes of finished targets fail only with refusals. -/
theorem isPlain_of_mem_target :
    ∀ entry ∈ target, entry.2.IsPlain := by
  simp only [target, actor, capability, kind, listener, List.forall_mem_append,
    List.forall_mem_map, List.forall_mem_cons, List.mem_nil_iff, false_implies, implies_true,
    and_true]
  refine ⟨⟨⟨?actor, ?capability⟩, ?kind⟩, ?listener⟩
  case actor =>
    exact ⟨isPlain_setting _ _ _, isPlain_setting _ _ _, isPlain_setting _ _ _,
      isPlain_listening .click, isPlain_listening .change, isPlain_listening .shown,
      isPlain_running, isPlain_closing⟩
  case capability =>
    refine ⟨⟨?fillParent, ?disabled, ?checked, ?align, ?title, ?pad⟩, fun side _ => ?_⟩
    all_goals exact isPlain_setting _ _ _
  case kind =>
    refine ⟨?wrap, ?modal, ?movable, ?horizontal, ?vertical, ?scrolling⟩
    all_goals exact isPlain_setting _ _ _
  case listener =>
    refine ⟨?action, ?ids, ?keep⟩
    case action =>
      exact AttributeRule.isPlain_onListener fun context raw => context.actions.isPlain_resolve raw
    case ids =>
      exact AttributeRule.isPlain_onListener fun _ _ => .pure _
    case keep =>
      exact AttributeRule.isPlain_onListener fun _ _ =>
        Logged.isPlain_ofExcept fun _ failed => isRefusal_of_readValueWith failed

theorem isRefusal_of_mem_building :
    ∀ entry ∈ building, ∀ raw blueprint problem,
      entry.2.apply raw blueprint = .error problem → problem.isRefusal = true := by
  simp only [building, List.forall_mem_cons, List.mem_nil_iff, false_implies, implies_true,
    and_true]
  refine ⟨?style, ?text, ?vertical, ?horizontal, ?least, ?greatest, ?step, ?value⟩
  all_goals exact fun _ _ _ failed => BuildingRule.isRefusal_of_setting failed

theorem isRefusal_of_mem_cell :
    ∀ entry ∈ cell, ∀ raw properties problem,
      entry.2.apply raw properties = .error problem → problem.isRefusal = true := by
  simp only [cell, List.forall_mem_append, List.forall_mem_map, List.forall_mem_cons,
    List.mem_nil_iff, false_implies, implies_true, and_true]
  refine ⟨⟨⟨⟨?pad, fun side _ => ?_⟩, ?colspan⟩, fun flag _ => ?_⟩, ?align, ?width, ?height, ?row⟩
  all_goals exact fun _ _ _ failed => CellRule.isRefusal_of_setting failed

end StandardAttribute

namespace TagRule

/-- Whether a rule fails only with refusals, whatever it makes and takes in. -/
structure IsPlain (rule : TagRule) : Prop where
  create :
    ∀ blueprint, (Logged.ofExcept (rule.create blueprint)).IsPlain
  takeText :
    ∀ text explicit target, (rule.takeText text explicit target).IsPlain
  takeWidget :
    ∀ child cell target, (Logged.ofExcept (rule.takeWidget child cell target)).IsPlain

theorem isPlain_takeTextByDefault
    (text : String)
    (explicit : Bool)
    (target : Target) :
    (takeTextByDefault text explicit target).IsPlain := by
  unfold takeTextByDefault
  split
  · split <;> exact .pure _
  · rename_i widget
    split
    · split
      · exact (Logged.IsPlain.record _ _).bind fun _ => .pure _
      · exact .pure _
    · refine (Logged.isPlain_ofExcept fun problem failed => ?_).bind fun _ => .pure _
      unfold addTextLabels at failed
      split at failed <;> cases failed <;> rfl

theorem isPlain_takeWidgetByDefault
    (child : Widget)
    (cell : CellProperties)
    (target : Target) :
    (Logged.ofExcept (takeWidgetByDefault child cell target)).IsPlain := by
  refine Logged.isPlain_ofExcept fun problem failed => ?_
  unfold takeWidgetByDefault at failed
  split at failed
  · cases failed
    rfl
  · split at failed <;> cases failed <;> rfl

theorem isPlain_plain
    {create : Blueprint → Except Problem Target}
    (creates : ∀ blueprint, (Logged.ofExcept (create blueprint)).IsPlain) :
    (plain create).IsPlain where
  create := creates
  takeText := isPlain_takeTextByDefault
  takeWidget := isPlain_takeWidgetByDefault

theorem isRefusal_of_createOfKind
    {kind : WidgetKind}
    {blueprint : Blueprint}
    {problem : Problem}
    (failed : createOfKind kind blueprint = .error problem) :
    problem.isRefusal = true := by
  unfold createOfKind at failed
  dsimp only at failed
  split at failed
  · cases resolved : blueprint.range.resolve <;> rw [resolved] at failed <;> cases failed
    rfl
  · cases failed

/-- The tags of the language fail only with refusals. -/
theorem IsStandard.isPlain
    {rule : TagRule}
    (isStandard : rule.IsStandard) :
    rule.IsPlain := by
  cases isStandard with
  | ofKind kind =>
      have creates (blueprint : Blueprint) :
          (Logged.ofExcept (createOfKind kind blueprint)).IsPlain :=
        Logged.isPlain_ofExcept fun _ failed => isRefusal_of_createOfKind failed
      exact ⟨creates, isPlain_takeTextByDefault, isPlain_takeWidgetByDefault⟩
  | ofEvent event =>
      exact isPlain_plain fun _ => .pure _

end TagRule

/-- The attributes that are found in the vocabulary of the language fail only with refusals. -/
theorem Vocabulary.isPlain_of_resolve_standard
    {ancestry : List TargetKey}
    {name : String}
    {rule : AttributeRule}
    (found : standard.resolve ancestry name = .found rule) :
    rule.IsPlain := by
  obtain ⟨_, ⟨entry, listed, _, rfl⟩ | ⟨entry, listed, _, rfl⟩⟩ := exists_of_resolve_standard found
  · exact StandardAttribute.isPlain_of_mem_target entry listed
  · exact AttributeRule.isPlain_cellDefaults (StandardAttribute.isRefusal_of_mem_cell entry listed)

end WidgetMarkup
