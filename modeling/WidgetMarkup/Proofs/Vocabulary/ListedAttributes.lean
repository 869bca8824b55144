import WidgetMarkup.Proofs.Vocabulary.StandardDeclarations
import WidgetMarkup.Proofs.Widget.Fitness

namespace WidgetMarkup

/-!
# What the attributes of the language do

Most attributes write properties of a widget that its kind can have and nothing else. The names of
a few stand for events: each of them adds a listener for its event, and no other attribute does.
-/

namespace ListenerEvent

/-- The names of the attributes that add a listener for an event. -/
def attributeNames : ListenerEvent → List String
  | click => ["onClick", "click"]
  | change => ["onChange", "change"]
  | shown => ["action", "onShow"]

/-- The event that the name of an attribute stands for. -/
def ofAttribute? (name : String) : Option ListenerEvent :=
  all.find? fun event => Declaration.lists event.attributeNames name

end ListenerEvent

namespace Declaration

/-- Names are listed whatever their spelling. -/
theorem lists_congr
    {names : List String}
    {name other : String}
    (same : Text.sameName name other = true) :
    lists names name = lists names other := by
  unfold lists Text.sameName
  rw [Text.sameName_iff.1 same]

end Declaration

namespace ListenerEvent

/-- Names that are the same stand for the same event. -/
theorem ofAttribute?_congr
    {name other : String}
    (same : Text.sameName name other = true) :
    ofAttribute? name = ofAttribute? other := by
  unfold ofAttribute?
  simp only [Declaration.lists_congr same]

/-- A name that is listed stands for the same event as all names of the list. -/
theorem ofAttribute?_of_lists
    {event : Option ListenerEvent}
    {names : List String}
    {name : String}
    (each : ∀ other ∈ names, ofAttribute? other = event)
    (listed : Declaration.lists names name = true) :
    ofAttribute? name = event := by
  obtain ⟨other, member, same⟩ := List.any_eq_true.1 listed
  rw [← ofAttribute?_congr same]
  exact each other member

/-- The names of the attributes of an event stand for it. -/
theorem ofAttribute?_attributeNames
    (event : ListenerEvent) :
    ∀ name ∈ event.attributeNames, ofAttribute? name = some event := by
  cases event <;> decide +kernel

end ListenerEvent

/-- Whether a widget differs from another one in properties only, and not in its kind, its text, its
range, its listeners or the widgets that it holds. -/
structure Widget.SameBody (widget changed : Widget) : Prop where
  kind : changed.kind = widget.kind
  text : changed.text = widget.text
  range : changed.range = widget.range
  listeners : changed.listeners = widget.listeners
  shape : changed.content.shape = widget.content.shape
  children : changed.children = widget.children

/-- The listener with what an attribute of a name writes into it. -/
def Listener.written (separator : Char) (name raw : String) (listener : Listener) : Listener :=
  if Text.sameName "action" name then
    { listener with action := some (Actions.bareName raw) }
  else if Text.sameName "ids" name then
    { listener with ids := AttributeValue.items separator raw }
  else if Text.sameName "keep" name then
    { listener with keep := (AttributeValue.readTruth raw).toOption.getD listener.keep }
  else
    listener

/-- The attributes of targets that the language has, with their names. -/
inductive AttributeRule.IsListed : List String → AttributeRule → Prop where
  | setting
      {α : Type}
      {names : List String}
      {key : TargetKey}
      {read : AttributeContext → String → Except Problem α}
      {write : α → Widget → Widget}
      (silent : ∀ name ∈ names, ListenerEvent.ofAttribute? name = none)
      (keeps : ∀ (value : α) (widget : Widget), widget.SameBody (write value widget))
      (fits :
        ∀ (value : α) (widget : Widget),
          key ∈ widget.kind.ancestry → widget.FitsKind → (write value widget).FitsKind) :
      IsListed names (.onWidget key read write)
  | listening (event : ListenerEvent) :
      IsListed event.attributeNames (StandardAttribute.listening event)
  | onListener
      {α : Type}
      {names : List String}
      {read : AttributeContext → String → Except Problem α}
      {write : α → Listener → Listener}
      (writes :
        ∀ {context name raw value} (listener : Listener),
          Declaration.lists names name = true → read context raw = .ok value →
            write value listener = listener.written context.separator name raw) :
      IsListed names (.onListener read write)
  | running : IsListed ["onCreate", "create", "init"] StandardAttribute.running
  | closing : IsListed ["onClose", "close"] StandardAttribute.closing
  | cellDefaults
      {names : List String}
      (rule : CellRule)
      (silent : ∀ name ∈ names, ListenerEvent.ofAttribute? name = none) :
      IsListed names (.cellDefaults rule)

/-- A reference that is resolved names a registered action. -/
theorem Actions.resolve_eq_ok
    {actions : Actions}
    {reference name : String}
    (resolved : actions.resolve reference = .ok name) :
    actions.contains reference ∧ name = bareName reference := by
  unfold resolve at resolved
  split at resolved
  · rename_i registered
    cases resolved
    exact ⟨registered, rfl⟩
  · cases resolved

namespace StandardAttribute

open AttributeRule (IsListed)

theorem isListed_of_mem_actor :
    ∀ entry ∈ actor, IsListed entry.1 entry.2 := by
  simp only [actor, List.forall_mem_cons, List.mem_nil_iff, false_implies, implies_true, and_true]
  refine ⟨?id, ?visible, ?color, .listening .click, .listening .change, .listening .shown,
    .running, .closing⟩
  all_goals
    refine .setting (by decide +kernel) (fun _ _ => ⟨rfl, rfl, rfl, rfl, rfl, rfl⟩) ?_
    exact fun _ _ _ fits => { fits with }

theorem isListed_of_mem_capability :
    ∀ entry ∈ capability, IsListed entry.1 entry.2 := by
  have has {kind : WidgetKind} {own : Capability} :=
    @WidgetKind.has_of_mem_ancestry kind own
  simp only [capability, sides, List.forall_mem_append, List.forall_mem_map, List.forall_mem_cons,
    List.mem_nil_iff, false_implies, implies_true, and_true]
  refine ⟨⟨?fillParent, ?disabled, ?checked, ?align, ?title, ?pad⟩, ?top, ?left, ?bottom, ?right⟩
  all_goals
    refine .setting (by decide +kernel) (fun _ _ => ⟨rfl, rfl, rfl, rfl, rfl, rfl⟩) ?_
    intro _ _ key fits
  case fillParent => exact { fits with fillParent := fun _ => has key }
  case disabled => exact { fits with disabled := fun _ => has key }
  case checked => exact { fits with checked := fun _ => has key }
  case align => exact { fits with align := fun _ => has key }
  case title => exact { fits with title := fun _ => has key }
  all_goals exact { fits with padding := fun _ => has key }

theorem isListed_of_mem_kind :
    ∀ entry ∈ kind, IsListed entry.1 entry.2 := by
  have only {own other : WidgetKind} (key : TargetKey.kind other ∈ own.ancestry) :=
    WidgetKind.eq_of_mem_ancestry key
  simp only [kind, List.forall_mem_cons, List.mem_nil_iff, false_implies, implies_true, and_true]
  refine ⟨?wrap, ?modal, ?movable, ?horizontal, ?vertical, ?scrolling⟩
  all_goals
    refine .setting (by decide +kernel) (fun _ _ => ⟨rfl, rfl, rfl, rfl, rfl, rfl⟩) ?_
    intro _ _ key fits
    have isKind := only key (by intro below; cases below <;> decide)
  case wrap => exact { fits with wrap := fun _ => isKind }
  case modal => exact { fits with modal := fun _ => isKind }
  case movable => exact { fits with movable := fun _ => isKind }
  case horizontal => exact { fits with spacing := fun _ => .inl isKind }
  case vertical => exact { fits with spacing := fun _ => .inr isKind }
  case scrolling => exact { fits with scrollingDisabled := fun _ => isKind }

theorem isListed_of_mem_listener :
    ∀ entry ∈ listener, IsListed entry.1 entry.2 := by
  have named {own name : String} : Declaration.lists [own] name = Text.sameName own name :=
    Bool.or_false _
  have folded {own other name : String} (same : Text.sameName own name = true) :
      Text.sameName other name = Text.sameName other own := by
    unfold Text.sameName
    rw [Text.sameName_iff.1 same]
  simp only [listener, List.forall_mem_cons, List.mem_nil_iff, false_implies, implies_true,
    and_true]
  refine ⟨.onListener ?action, .onListener ?ids, .onListener ?keep⟩
  all_goals
    intro context name raw value listener listed found
    rw [named] at listed
    unfold Listener.written
    simp only [folded listed]
  case action =>
    rw [if_pos (by decide +kernel), (Actions.resolve_eq_ok found).2]
  case ids =>
    cases found
    rw [if_neg (by decide +kernel), if_pos (by decide +kernel)]
  case keep =>
    rw [if_neg (by decide +kernel), if_neg (by decide +kernel), if_pos (by decide +kernel)]
    cases isRead : AttributeValue.readTruth raw with
    | error problem =>
        rw [readValueWith, isRead] at found
        cases found
    | ok keep =>
        rw [readValueWith, isRead] at found
        cases found
        rfl

/-- Every attribute of finished targets is one that the language has. -/
theorem isListed_of_mem_target :
    ∀ entry ∈ target, IsListed entry.1 entry.2 := by
  simp only [target, List.forall_mem_append]
  exact ⟨⟨⟨isListed_of_mem_actor, isListed_of_mem_capability⟩, isListed_of_mem_kind⟩,
    isListed_of_mem_listener⟩

/-- No cell attribute has the name of an event on tables. -/
theorem silent_of_mem_cell :
    ∀ entry ∈ cell, ∀ name ∈ entry.1.default.toList, ListenerEvent.ofAttribute? name = none := by
  have silent :
      ∀ name ∈ (cell.map Prod.fst).flatMap fun names => names.default.toList,
        ListenerEvent.ofAttribute? name = none := by
    decide +kernel
  simpa only [List.forall_mem_flatMap, List.forall_mem_map] using silent

end StandardAttribute

namespace Vocabulary

/-- An attribute that is found for a target is one that the language has under that name, for a key
of the target. -/
theorem isListed_of_resolve_standard
    {ancestry : List TargetKey}
    {name : String}
    {rule : AttributeRule}
    (found : standard.resolve ancestry name = .found rule) :
    rule.key ∈ ancestry ∧ ∃ names, Declaration.lists names name = true ∧ rule.IsListed names := by
  obtain ⟨member, ⟨entry, listed, named, rfl⟩ | ⟨entry, listed, named, rfl⟩⟩ :=
    exists_of_resolve_standard found
  · exact ⟨member, entry.1, named, StandardAttribute.isListed_of_mem_target entry listed⟩
  · exact ⟨member, _, named, .cellDefaults _ (StandardAttribute.silent_of_mem_cell entry listed)⟩

end Vocabulary

/-- Whether the name of an attribute stands for no event and for nothing that a listener has. -/
structure Declaration.IsSilent (name : String) : Prop where
  onWidgets : ListenerEvent.ofAttribute? name = none
  onListeners : lists ["action", "ids", "keep"] name = false

/-- A name that is listed is silent if all names of the list are. -/
theorem Declaration.isSilent_of_lists
    {names : List String}
    {name : String}
    (each :
      ∀ other ∈ names,
        ListenerEvent.ofAttribute? other = none ∧
          lists ["action", "ids", "keep"] other = false)
    (listed : lists names name = true) :
    IsSilent name := by
  obtain ⟨other, member, same⟩ := List.any_eq_true.1 listed
  obtain ⟨onWidgets, onListeners⟩ := each other member
  exact ⟨(ListenerEvent.ofAttribute?_congr same).symm.trans onWidgets,
    (lists_congr same).symm.trans onListeners⟩

/-- A listener stays as it is under an attribute with a silent name. -/
theorem Declaration.IsSilent.written
    {name : String}
    (isSilent : IsSilent name)
    (separator : Char)
    (raw : String)
    (listener : Listener) :
    listener.written separator name raw = listener := by
  have other := isSilent.onListeners
  simp only [lists, List.any_cons, List.any_nil, Bool.or_false, Bool.or_eq_false_iff] at other
  unfold Listener.written
  simp only [other.1, other.2.1, other.2.2, Bool.false_eq_true, ↓reduceIte]

namespace Vocabulary

/-- The attributes of blueprints have silent names. -/
theorem isSilent_of_building?_standard
    {name : String}
    {features : List Feature}
    {rule : BuildingRule}
    (found : standard.building? name features = some rule) :
    Declaration.IsSilent name := by
  obtain ⟨_, entry, listed, named, _⟩ := exists_of_building?_standard found
  have silent :
      ∀ name ∈ StandardAttribute.building.flatMap Prod.fst,
        ListenerEvent.ofAttribute? name = none ∧
          Declaration.lists ["action", "ids", "keep"] name = false := by
    decide +kernel
  rw [List.forall_mem_flatMap] at silent
  exact Declaration.isSilent_of_lists (silent entry listed) named

/-- The attributes of cells have silent names. -/
theorem isSilent_of_cell?_standard
    {name : String}
    {rule : CellRule}
    (found : standard.cell? name = some rule) :
    Declaration.IsSilent name := by
  obtain ⟨entry, listed, named, _⟩ := exists_of_cell?_standard found
  have silent :
      ∀ name ∈ StandardAttribute.cell.flatMap fun entry => [entry.1.cell],
        ListenerEvent.ofAttribute? name = none ∧
          Declaration.lists ["action", "ids", "keep"] name = false := by
    decide +kernel
  rw [List.forall_mem_flatMap] at silent
  exact Declaration.isSilent_of_lists (silent entry listed) named

end Vocabulary

end WidgetMarkup
