import WidgetMarkup.Proofs.Construction.Parallel
import WidgetMarkup.Proofs.Vocabulary.StandardDeclarations

namespace WidgetMarkup

/-!
# Rules do not see the spelling of names

Rules are found under all spellings of a name. The rule of an attribute is told the name that the
document has given to the attribute; the rules of the language look at it in the words of their
problems only.
-/

section Lookups

variable {name name' : String}

theorem Vocabulary.tag?_congr
    (same : Text.foldCase name = Text.foldCase name')
    (vocabulary : Vocabulary) :
    vocabulary.tag? name = vocabulary.tag? name' :=
  NameTable.find?_congr same vocabulary.tags

theorem Vocabulary.cell?_congr
    (same : Text.foldCase name = Text.foldCase name')
    (vocabulary : Vocabulary) :
    vocabulary.cell? name = vocabulary.cell? name' :=
  NameTable.find?_congr same vocabulary.cells

theorem Vocabulary.building?_congr
    (same : Text.foldCase name = Text.foldCase name')
    (vocabulary : Vocabulary)
    (features : List Feature) :
    vocabulary.building? name features = vocabulary.building? name' features := by
  unfold building?
  rw [NameTable.find?_congr same]

/-- The attributes of targets are known under all spellings of their names, or under none. -/
theorem Vocabulary.resolve_congr
    (same : Text.foldCase name = Text.foldCase name')
    (vocabulary : Vocabulary)
    (ancestry : List TargetKey) :
    vocabulary.resolve ancestry name = vocabulary.resolve ancestry name' := by
  unfold resolve NameTable.contains
  simp only [NameTable.find?_congr same]

end Lookups

/-- Whether an attribute does the same, its problems' words apart, whatever name it is given. -/
def AttributeRule.IgnoresName (rule : AttributeRule) : Prop :=
  ∀ context name raw workpiece,
    Logged.Parallel Eq (rule.apply context raw workpiece)
      (rule.apply { context with name } raw workpiece)

/-- Whether a workpiece is a widget does not depend on the name of an attribute. -/
theorem Logged.parallel_requireWidget
    (context : AttributeContext)
    (name : String)
    (workpiece : Workpiece) :
    Logged.Parallel Eq (Logged.ofExcept (context.requireWidget workpiece))
      (Logged.ofExcept ({ context with name }.requireWidget workpiece)) := by
  unfold AttributeContext.requireWidget
  cases workpiece.target with
  | widget widget =>
      exact .pure rfl
  | listener listener =>
      exact .throw rfl

theorem Logged.parallel_requireListener
    (context : AttributeContext)
    (name : String)
    (workpiece : Workpiece) :
    Logged.Parallel Eq (Logged.ofExcept (context.requireListener workpiece))
      (Logged.ofExcept ({ context with name }.requireListener workpiece)) := by
  unfold AttributeContext.requireListener
  cases workpiece.target with
  | widget widget =>
      exact .throw rfl
  | listener listener =>
      exact .pure rfl

namespace AttributeRule

theorem ignoresName_onWidget
    {α : Type}
    {key : TargetKey}
    {read : AttributeContext → String → Except Problem α}
    {write : α → Widget → Widget}
    (reads : ∀ context name raw, read { context with name } raw = read context raw) :
    (onWidget key read write).IgnoresName := by
  intro context name raw workpiece
  simp only [onWidget]
  rw [reads context name raw]
  refine (Logged.isBlind_ofExcept _).parallel.bind_eq fun value => ?_
  exact (Logged.parallel_requireWidget context name workpiece).bind_eq fun widget => .pure rfl

theorem ignoresName_onListener
    {α : Type}
    {read : AttributeContext → String → Except Problem α}
    {write : α → Listener → Listener}
    (reads : ∀ context name raw, read { context with name } raw = read context raw) :
    (onListener read write).IgnoresName := by
  intro context name raw workpiece
  simp only [onListener]
  rw [reads context name raw]
  refine (Logged.isBlind_ofExcept _).parallel.bind_eq fun value => ?_
  exact (Logged.parallel_requireListener context name workpiece).bind_eq fun listener =>
    .pure rfl

theorem ignoresName_cellDefaults
    (rule : CellRule) :
    (cellDefaults rule).IgnoresName := by
  intro context name raw workpiece
  simp only [cellDefaults]
  refine (Logged.parallel_requireWidget context name workpiece).bind_eq fun widget => ?_
  split
  · exact (Logged.isBlind_ofExcept _).parallel.bind_eq fun defaults => .pure rfl
  · exact .throw rfl

end AttributeRule

namespace StandardAttribute

open AttributeRule (ignoresName_onWidget ignoresName_onListener)

theorem ignoresName_running :
    running.IgnoresName :=
  fun context _ raw workpiece =>
    (context.actions.isBlind_invokeOnTarget raw workpiece.target).parallel.bind_eq fun _ =>
      .pure rfl

theorem ignoresName_closing :
    closing.IgnoresName :=
  fun _ _ _ _ => (Logged.isBlind_ofExcept _).parallel.bind_eq fun _ => .pure rfl

/-- The attributes of finished targets do the same whatever name they are given. -/
theorem ignoresName_of_mem_target :
    ∀ entry ∈ target, entry.2.IgnoresName := by
  simp only [target, actor, capability, kind, listener, List.forall_mem_append,
    List.forall_mem_map, List.forall_mem_cons, List.mem_nil_iff, false_implies, implies_true,
    and_true]
  refine ⟨⟨⟨?actor, ?capability⟩, ?kind⟩, ?listener⟩
  case actor =>
    refine ⟨?id, ?visible, ?color, ?click, ?change, ?shown, ignoresName_running,
      ignoresName_closing⟩
    all_goals exact ignoresName_onWidget fun _ _ _ => rfl
  case capability =>
    refine ⟨⟨?fillParent, ?disabled, ?checked, ?align, ?title, ?pad⟩, fun side _ => ?_⟩
    all_goals exact ignoresName_onWidget fun _ _ _ => rfl
  case kind =>
    refine ⟨?wrap, ?modal, ?movable, ?horizontal, ?vertical, ?scrolling⟩
    all_goals exact ignoresName_onWidget fun _ _ _ => rfl
  case listener =>
    refine ⟨?action, ?ids, ?keep⟩
    all_goals exact ignoresName_onListener fun _ _ _ => rfl

end StandardAttribute

/-- The attributes of the language do the same whatever name they are given. -/
theorem Vocabulary.ignoresName_of_resolve_standard
    {ancestry : List TargetKey}
    {name : String}
    {rule : AttributeRule}
    (found : standard.resolve ancestry name = .found rule) :
    rule.IgnoresName := by
  obtain ⟨_, ⟨entry, listed, _, rfl⟩ | ⟨entry, _, _, rfl⟩⟩ := exists_of_resolve_standard found
  · exact StandardAttribute.ignoresName_of_mem_target entry listed
  · exact AttributeRule.ignoresName_cellDefaults entry.2

end WidgetMarkup
