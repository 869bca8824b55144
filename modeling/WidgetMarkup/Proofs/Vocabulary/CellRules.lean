import WidgetMarkup.Proofs.Construction.AttributeRuns
import WidgetMarkup.Proofs.Vocabulary.NamelessRules
import WidgetMarkup.Proofs.Vocabulary.OverwritingRules

namespace WidgetMarkup

open Markup

/-!
# The attributes of cells

A cell attribute is written in two places: on a tag inside a table for the cell of the tag, and on
the table for what its cells start from. Both do the same to a cell, under names that no other
attribute has, so that what attributes write into a cell is one fold over all attributes of a tag.
-/

/-- Where a cell attribute is written. -/
inductive CellPlace where
  /-- On a tag inside a table. -/
  | cell
  /-- On the table. -/
  | table
deriving Repr, DecidableEq

/-- The names of a cell attribute in a place. -/
def CellPlace.names : CellPlace → CellAlias → List String
  | cell, names => [names.cell]
  | table, names => names.default.toList

namespace StandardAttribute

/-- The cell attribute that a name stands for in a place. -/
def cellRule? (place : CellPlace) (name : String) : Option CellRule :=
  (cell.find? fun entry => Declaration.lists (place.names entry.1) name).map Prod.snd

theorem cellRule?_congr
    {place : CellPlace}
    {name other : String}
    (same : Text.sameName name other = true) :
    cellRule? place name = cellRule? place other := by
  unfold cellRule?
  simp only [Declaration.lists_congr same]

/-- A name that stands for a cell attribute is listed for it. -/
theorem exists_of_cellRule?
    {place : CellPlace}
    {name : String}
    {rule : CellRule}
    (found : cellRule? place name = some rule) :
    ∃ entry ∈ cell, Declaration.lists (place.names entry.1) name = true ∧ entry.2 = rule := by
  unfold cellRule? at found
  obtain ⟨entry, isFirst, isRule⟩ := Option.map_eq_some_iff.1 found
  have named := List.find?_some isFirst
  exact ⟨entry, List.mem_of_find?_eq_some isFirst, named, isRule⟩

/-- Whether two cell attributes have no name in common in a place. -/
def HaveDistinctNames (place : CellPlace) (first second : CellAlias) : Prop :=
  ∀ name ∈ place.names first, ∀ other ∈ place.names second, Text.sameName name other = false

instance (place : CellPlace) : DecidableRel (HaveDistinctNames place) :=
  fun first second =>
    inferInstanceAs
      (Decidable
        (∀ name ∈ place.names first, ∀ other ∈ place.names second,
          Text.sameName name other = false))

theorem haveDistinctNames_cell
    (place : CellPlace) :
    cell.Pairwise fun first second => HaveDistinctNames place first.1 second.1 := by
  rw [← List.pairwise_map]
  cases place <;> decide +kernel

/-- A name that is listed for a cell attribute stands for it. -/
theorem cellRule?_of_mem
    {place : CellPlace}
    {entry : CellAlias × CellRule}
    (listed : entry ∈ cell)
    {name : String}
    (named : Declaration.lists (place.names entry.1) name = true) :
    cellRule? place name = some entry.2 := by
  cases found : cellRule? place name with
  | none =>
      rw [cellRule?, Option.map_eq_none_iff, List.find?_eq_none] at found
      exact absurd named (found entry listed)
  | some rule =>
      obtain ⟨other, otherListed, otherNamed, rfl⟩ := exists_of_cellRule? found
      rw [Declaration.eq_of_lists (haveDistinctNames_cell place) otherListed listed otherNamed
        named]

theorem cellRule?_of_mem_names
    {place : CellPlace}
    {entry : CellAlias × CellRule}
    (listed : entry ∈ cell)
    {name : String}
    (named : name ∈ place.names entry.1) :
    cellRule? place name = some entry.2 :=
  cellRule?_of_mem listed (List.any_eq_true.2 ⟨name, named, Text.sameName_self name⟩)

/-- A name that is listed stands for no cell attribute if no name of the list does. -/
theorem cellRule?_eq_none_of_lists
    {place : CellPlace}
    {names : List String}
    {name : String}
    (each : ∀ other ∈ names, (cellRule? place other).isNone = true)
    (listed : Declaration.lists names name = true) :
    cellRule? place name = none := by
  obtain ⟨other, member, same⟩ := List.any_eq_true.1 listed
  rw [← cellRule?_congr same]
  exact Option.isNone_iff_eq_none.1 (each other member)

end StandardAttribute

namespace CellProperties

/-- A cell with what an attribute writes into it in a place. -/
def writtenBy
    (place : CellPlace)
    (cell : CellProperties)
    (entry : Attribute) :
    Except Problem CellProperties :=
  match StandardAttribute.cellRule? place entry.name with
  | some rule => rule.apply entry.value cell
  | none => .ok cell

/-- A cell with what attributes write into it in a place, one after another. -/
def written
    (place : CellPlace)
    (attributes : List Attribute)
    (cell : CellProperties) :
    Except Problem CellProperties :=
  attributes.foldlM (writtenBy place) cell

theorem written_cons
    {place : CellPlace}
    (entry : Attribute)
    (rest : List Attribute)
    (cell : CellProperties) :
    written place (entry :: rest) cell = writtenBy place cell entry >>= written place rest :=
  List.foldlM_cons

theorem written_append
    {place : CellPlace}
    (first second : List Attribute)
    (cell : CellProperties) :
    written place (first ++ second) cell = written place first cell >>= written place second :=
  List.foldlM_append

/-- An attribute that is none of cells writes nothing into one. -/
theorem written_cons_of_none
    {place : CellPlace}
    {entry : Attribute}
    (isOther : StandardAttribute.cellRule? place entry.name = none)
    (rest : List Attribute)
    (cell : CellProperties) :
    written place (entry :: rest) cell = written place rest cell := by
  rw [written_cons, writtenBy, isOther]
  rfl

/-- What the attributes of a tag that are split off for its cell make of it; outside tables a cell
stays fresh. -/
def ofEntries
    (cells : Option CellProperties)
    (entries : List (CellRule × Attribute)) :
    Except Problem CellProperties :=
  match cells with
  | some defaults => entries.foldlM (fun cell entry => entry.1.apply entry.2.value cell) defaults
  | none => .ok {}

end CellProperties

namespace Vocabulary

open StandardAttribute (cellRule? cellRule?_of_mem cellRule?_eq_none_of_lists)

variable {place : CellPlace} {name : String}

/-- The cell attributes of the language are found under their names on cells. -/
theorem cell?_standard
    (name : String) :
    standard.cell? name = cellRule? .cell name := by
  cases found : standard.cell? name with
  | some rule =>
      obtain ⟨entry, listed, named, rfl⟩ := exists_of_cell?_standard found
      have named : Declaration.lists (CellPlace.cell.names entry.1) name = true := named
      exact (cellRule?_of_mem listed named).symm
  | none =>
      cases isRule : cellRule? .cell name with
      | none =>
          rfl
      | some rule =>
          obtain ⟨entry, listed, named, _⟩ := StandardAttribute.exists_of_cellRule? isRule
          obtain ⟨other, member, same⟩ := List.any_eq_true.1 named
          have known :
              ∀ names ∈ StandardAttribute.cell.map Prod.fst, ∀ name ∈ CellPlace.cell.names names,
                (standard.cell? name).isSome = true := by
            decide +kernel
          have isKnown := known _ (List.mem_map_of_mem listed) other member
          rw [cell?_congr (Text.sameName_iff.1 same), found] at isKnown
          cases isKnown

/-- The attributes of blueprints are none of cells. -/
theorem cellRule?_of_building?_standard
    {features : List Feature}
    {rule : BuildingRule}
    (found : standard.building? name features = some rule) :
    cellRule? place name = none := by
  obtain ⟨_, entry, listed, named, _⟩ := exists_of_building?_standard found
  have others :
      ∀ name ∈ StandardAttribute.building.flatMap Prod.fst,
        (cellRule? place name).isNone = true := by
    cases place <;> decide +kernel
  exact cellRule?_eq_none_of_lists (List.forall_mem_flatMap.1 others entry listed) named

/-- A cell attribute has no name of a cell on tables. -/
theorem cellRule?_table_of_cell
    {rule : CellRule}
    (found : cellRule? .cell name = some rule) :
    cellRule? .table name = none := by
  obtain ⟨entry, listed, named, _⟩ := StandardAttribute.exists_of_cellRule? found
  have others :
      ∀ names ∈ StandardAttribute.cell.map Prod.fst, ∀ name ∈ CellPlace.cell.names names,
        (cellRule? .table name).isNone = true := by
    decide +kernel
  exact cellRule?_eq_none_of_lists (others _ (List.mem_map_of_mem listed)) named

end Vocabulary

/-- Whether an attribute writes properties of widgets only: what a widget is and holds stays, as
does what is put off until its tag closes. -/
def AttributeRule.LeavesContent (rule : AttributeRule) : Prop :=
  ∀ context raw widget onClose workpiece journal journal',
    rule.apply context raw ⟨.widget widget, onClose⟩ journal = .ok workpiece journal' →
      ∃ changed,
        workpiece = ⟨.widget changed, onClose⟩ ∧ changed.kind = widget.kind ∧
          changed.content = widget.content

namespace AttributeRule

theorem leavesContent_onWidget
    {α : Type}
    {key : TargetKey}
    {read : AttributeContext → String → Except Problem α}
    {write : α → Widget → Widget}
    (kind : ∀ value widget, (write value widget).kind = widget.kind)
    (content : ∀ value widget, (write value widget).content = widget.content) :
    (onWidget key read write).LeavesContent := by
  intro context raw widget onClose workpiece journal journal' ran
  obtain ⟨value, _, isRead, _, _⟩ := onWidget_eq_ok ran
  rw [apply_onWidget_of_read isRead] at ran
  cases ran
  exact ⟨write value widget, rfl, kind value widget, content value widget⟩

theorem leavesContent_onListener
    {α : Type}
    {read : AttributeContext → String → Except Problem α}
    {write : α → Listener → Listener} :
    (onListener read write).LeavesContent := by
  intro context raw widget onClose workpiece journal journal' ran
  obtain ⟨_, _, _, ⟨⟩, _⟩ := onListener_eq_ok ran

end AttributeRule

namespace StandardAttribute

open AttributeRule (leavesContent_onWidget leavesContent_onListener)

/-- Of the attributes of finished targets, all but those that stand for actions write properties
only. -/
theorem leavesContent_of_mem_target :
    ∀ entry ∈ target,
      entry = (Declaration.creatingNames, running) ∨ entry = (Declaration.closingNames, closing) ∨
        entry.2.LeavesContent := by
  simp only [target, actor, capability, kind, listener, List.forall_mem_append,
    List.forall_mem_map, List.forall_mem_cons, List.mem_nil_iff, false_implies, implies_true,
    and_true]
  refine ⟨⟨⟨?actor, ?capability⟩, ?kind⟩, ?listener⟩
  case listener =>
    exact ⟨.inr (.inr leavesContent_onListener), .inr (.inr leavesContent_onListener),
      .inr (.inr leavesContent_onListener)⟩
  case' actor =>
    refine ⟨?id, ?visible, ?color, ?click, ?change, ?shown, .inl rfl, .inr (.inl rfl)⟩
  case' capability =>
    refine ⟨⟨?fillParent, ?disabled, ?checked, ?align, ?title, ?pad⟩, fun side _ => ?side⟩
  case' kind =>
    refine ⟨?wrap, ?modal, ?movable, ?horizontal, ?vertical, ?scrolling⟩
  all_goals exact .inr (.inr (leavesContent_onWidget (fun _ _ => rfl) fun _ _ => rfl))

end StandardAttribute

namespace Vocabulary

open StandardAttribute (cellRule? cellRule?_of_mem cellRule?_eq_none_of_lists)

variable {ancestry : List TargetKey} {name : String}

/-- An attribute that is found for a target, and under whose name no action runs, writes what the
cells of a table start from if the name stands for that, and properties only if not. -/
theorem writes_of_resolve_standard
    {rule : AttributeRule}
    (found : standard.resolve ancestry name = .found rule)
    (runsNothing : Declaration.RunsNothing name) :
    match cellRule? .table name with
    | some own => rule = .cellDefaults own
    | none => rule.LeavesContent := by
  obtain ⟨_, ⟨entry, listed, named, rfl⟩ | ⟨entry, listed, named, rfl⟩⟩ :=
    exists_of_resolve_standard found
  · have others :
        ∀ name ∈ StandardAttribute.target.flatMap Prod.fst,
          (cellRule? .table name).isNone = true := by
      decide +kernel
    rw [cellRule?_eq_none_of_lists (List.forall_mem_flatMap.1 others entry listed) named]
    rcases StandardAttribute.leavesContent_of_mem_target entry listed with rfl | rfl | leaves
    · exact absurd named (Bool.eq_false_iff.1 runsNothing.1)
    · exact absurd named (Bool.eq_false_iff.1 runsNothing.2)
    · exact leaves
  · have named : Declaration.lists (CellPlace.table.names entry.1) name = true := named
    rw [cellRule?_of_mem listed named]

/-- What the language does not know is not written into what the cells of a table start from. -/
theorem cellRule?_of_resolve_standard_unknown
    (unknown : standard.resolve ancestry name = .unknown) :
    cellRule? .table name = none := by
  cases isRule : cellRule? .table name with
  | none =>
      rfl
  | some rule =>
      obtain ⟨entry, listed, named, _⟩ := StandardAttribute.exists_of_cellRule? isRule
      obtain ⟨other, member, same⟩ := List.any_eq_true.1 named
      have known :
          ∀ names ∈ StandardAttribute.cell.map Prod.fst, ∀ name ∈ CellPlace.table.names names,
            (standard.attributes.find? name).isSome = true := by
        decide +kernel
      have isKnown := known _ (List.mem_map_of_mem listed) other member
      rw [NameTable.find?_congr (Text.sameName_iff.1 same)] at isKnown
      unfold resolve at unknown
      split at unknown
      · split at unknown <;> cases unknown
      · rename_i isMissing
        rw [isMissing] at isKnown
        cases isKnown

end Vocabulary

/-- A name of a cell attribute is none of blueprints. -/
theorem Vocabulary.building?_standard_of_cellRule?
    {place : CellPlace}
    {name : String}
    {own : CellRule}
    (isCell : StandardAttribute.cellRule? place name = some own)
    (features : List Feature) :
    standard.building? name features = none := by
  cases found : standard.building? name features with
  | none =>
      rfl
  | some rule =>
      cases (cellRule?_of_building?_standard found).symm.trans isCell

namespace SplitAttributes

open CellProperties (ofEntries written written_cons_of_none)

/-- What a tag in a table writes into its cell is what all its attributes write. -/
theorem ofEntries_cell
    (features : List Feature)
    (attributes : List Attribute)
    (defaults : CellProperties) :
    ofEntries (some defaults) (ofAttributes .standard features true attributes).cell =
      written .cell attributes defaults := by
  induction attributes generalizing defaults with
  | nil =>
      rfl
  | cons entry rest inductionHypothesis =>
      unfold ofAttributes
      cases found : Vocabulary.standard.building? entry.name features with
      | some rule =>
          rw [written_cons_of_none (Vocabulary.cellRule?_of_building?_standard found)]
          exact inductionHypothesis defaults
      | none =>
          simp only [↓reduceIte]
          cases isCell : Vocabulary.standard.cell? entry.name with
          | none =>
              rw [written_cons_of_none (Vocabulary.cell?_standard _ ▸ isCell)]
              exact inductionHypothesis defaults
          | some rule =>
              rw [CellProperties.written_cons, CellProperties.writtenBy,
                ← Vocabulary.cell?_standard, isCell]
              exact bind_congr inductionHypothesis

/-- What a tag writes into the defaults of its table is what its attributes for the target write. -/
theorem written_target
    (features : List Feature)
    (inTable : Bool)
    (attributes : List Attribute)
    (defaults : CellProperties) :
    written .table (ofAttributes .standard features inTable attributes).target defaults =
      written .table attributes defaults := by
  induction attributes generalizing defaults with
  | nil =>
      rfl
  | cons entry rest inductionHypothesis =>
      unfold ofAttributes
      cases found : Vocabulary.standard.building? entry.name features with
      | some rule =>
          rw [written_cons_of_none (Vocabulary.cellRule?_of_building?_standard found)]
          exact inductionHypothesis defaults
      | none =>
          dsimp only
          split
          · rename_i rule isCell
            rw [ite_eq_iff] at isCell
            obtain ⟨_, isCell⟩ | ⟨_, ⟨⟩⟩ := isCell
            rw [Vocabulary.cell?_standard] at isCell
            rw [written_cons_of_none (Vocabulary.cellRule?_table_of_cell isCell)]
            exact inductionHypothesis defaults
          · rw [CellProperties.written_cons, CellProperties.written_cons]
            exact bind_congr inductionHypothesis

/-- An attribute of a cell is split off from the others of a tag in a table. -/
theorem ofAttributes_cons_of_cell
    {entry : Attribute}
    {own : CellRule}
    (isCell : StandardAttribute.cellRule? .cell entry.name = some own)
    {features : List Feature}
    {rest : List Attribute} :
    ofAttributes .standard features true (entry :: rest) =
      { ofAttributes .standard features true rest with
        cell := (own, entry) :: (ofAttributes .standard features true rest).cell } := by
  rw [ofAttributes, Vocabulary.building?_standard_of_cellRule? isCell]
  simp only [↓reduceIte, Vocabulary.cell?_standard, isCell]

end SplitAttributes

end WidgetMarkup
