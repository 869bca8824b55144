import WidgetMarkup.Proofs.Vocabulary.StandardDeclarations
import WidgetMarkup.Proofs.Vocabulary.StandardScripts

namespace WidgetMarkup

/-!
# What the vocabulary of the language holds

Every rule that is found in the vocabulary of the language is one of few kinds: its tags make
widgets of a kind or listeners, its attributes write into what a tag has made, run actions or have
them run later, and its macros act in the ways of the language.
-/

/-- The rules for tags that the language has. -/
inductive TagRule.IsStandard : TagRule → Prop where
  | ofKind (kind) : IsStandard (.ofKind kind)
  | ofEvent (event) : IsStandard (.ofEvent event)

/-- The rules for attributes that the language has; none that writes into a widget touches what
the widget holds. -/
inductive AttributeRule.IsStandard : AttributeRule → Prop where
  | onWidget
      {α : Type}
      {key : TargetKey}
      {read : AttributeContext → String → Except Problem α}
      {write : α → Widget → Widget}
      (keeps : ∀ value widget, (write value widget).content = widget.content) :
      IsStandard (.onWidget key read write)
  | onListener
      {α : Type}
      (read : AttributeContext → String → Except Problem α)
      (write : α → Listener → Listener) :
      IsStandard (.onListener read write)
  | running : IsStandard StandardAttribute.running
  | closing : IsStandard StandardAttribute.closing
  | cellDefaults (rule) : IsStandard (.cellDefaults rule)

namespace StandardAttribute

open AttributeRule (IsStandard)

theorem isStandard_of_mem_actor :
    ∀ entry ∈ actor, entry.2.IsStandard := by
  simp only [actor, List.forall_mem_cons, List.mem_nil_iff, false_implies, implies_true, and_true]
  refine ⟨?id, ?visible, ?color, ?click, ?change, ?shown, .running, .closing⟩
  all_goals exact .onWidget fun _ _ => rfl

theorem isStandard_of_mem_capability :
    ∀ entry ∈ capability, entry.2.IsStandard := by
  simp only [capability, List.forall_mem_append, List.forall_mem_map, List.forall_mem_cons,
    List.mem_nil_iff, false_implies, implies_true, and_true]
  refine ⟨⟨?fillParent, ?disabled, ?checked, ?align, ?title, ?pad⟩, fun side _ => ?_⟩
  all_goals exact .onWidget fun _ _ => rfl

theorem isStandard_of_mem_kind :
    ∀ entry ∈ kind, entry.2.IsStandard := by
  simp only [kind, List.forall_mem_cons, List.mem_nil_iff, false_implies, implies_true, and_true]
  refine ⟨?wrap, ?modal, ?movable, ?horizontal, ?vertical, ?scrolling⟩
  all_goals exact .onWidget fun _ _ => rfl

theorem isStandard_of_mem_listener :
    ∀ entry ∈ listener, entry.2.IsStandard := by
  simp only [listener, List.forall_mem_cons, List.mem_nil_iff, false_implies, implies_true,
    and_true]
  exact ⟨.onListener _ _, .onListener _ _, .onListener _ _⟩

/-- Every attribute of finished targets is of a kind that the language has. -/
theorem isStandard_of_mem_target :
    ∀ entry ∈ target, entry.2.IsStandard := by
  simp only [target, List.forall_mem_append]
  exact ⟨⟨⟨isStandard_of_mem_actor, isStandard_of_mem_capability⟩, isStandard_of_mem_kind⟩,
    isStandard_of_mem_listener⟩

end StandardAttribute

namespace Vocabulary

/-- Whether all rules that are found in a vocabulary are of the kinds that the language has. -/
structure HasStandardRules (vocabulary : Vocabulary) : Prop where
  tags :
    ∀ name rule, vocabulary.tag? name = some rule → rule.IsStandard
  attributes :
    ∀ ancestry name rule, vocabulary.resolve ancestry name = .found rule → rule.IsStandard
  macros :
    ∀ name rule, vocabulary.macroRule? name = some rule → rule.IsStandard

theorem isStandard_of_mem_standardTags :
    ∀ entry ∈ standardTags, entry.2.IsStandard := by
  simp only [standardTags, List.forall_mem_append, List.forall_mem_map, List.forall_mem_cons,
    List.mem_nil_iff, false_implies, implies_true, and_true]
  exact ⟨fun kind _ => .ofKind kind, .ofEvent .click, .ofEvent .change⟩

/-- All rules of the vocabulary of the language are of the kinds that it has. -/
theorem hasStandardRules_standard :
    standard.HasStandardRules where
  tags name rule found := by
    obtain ⟨entry, listed, _, rfl⟩ := exists_of_tag?_standard found
    exact isStandard_of_mem_standardTags entry listed
  attributes ancestry name rule found := by
    obtain ⟨_, ⟨entry, listed, _, rfl⟩ | ⟨entry, _, _, rfl⟩⟩ := exists_of_resolve_standard found
    · exact StandardAttribute.isStandard_of_mem_target entry listed
    · exact .cellDefaults entry.2
  macros name rule found := by
    obtain ⟨entry, listed, _, rfl⟩ := exists_of_macroRule?_standard found
    exact StandardMacro.isStandard_of_mem_all listed

end Vocabulary

end WidgetMarkup
