import WidgetMarkup.Appearance.Alignment
import WidgetMarkup.Appearance.Edges

namespace WidgetMarkup

/-!
# Tables

Cells in rows. A cell may end its row, and the next cell then begins a new one; the row that cells
are added to is always the last, and may be empty.
-/

/-- How a cell lays out what it holds. -/
structure CellProperties where
  pad : Edges := {}
  colspan : Nat := 1
  expandX : Bool := false
  expandY : Bool := false
  fillX : Bool := false
  fillY : Bool := false
  align : Option Alignment := none
  width : Option Float32 := none
  height : Option Float32 := none
  /-- Whether the cell is the last of its row. -/
  endRow : Bool := false
deriving Repr, Inhabited

/-- A cell with what it holds. -/
structure Cell (α : Type) where
  properties : CellProperties
  widget : α
deriving Repr

/-- Rows of cells, and what new cells start from. -/
structure Table (α : Type) where
  rows : List (List (Cell α)) := [[]]
  defaults : CellProperties := {}
deriving Repr

namespace Table

/-- The rows with a cell at the end of the last one. -/
def appendCell (cell : Cell α) : List (List (Cell α)) → List (List (Cell α))
  | [] => [[cell]]
  | [row] => [row ++ [cell]]
  | row :: next :: rest => row :: appendCell cell (next :: rest)

/-- The table with one more cell, and with a fresh row after it if the cell ends its row. -/
def add (table : Table α) (widget : α) (properties : CellProperties) : Table α :=
  let rows := appendCell ⟨properties, widget⟩ table.rows
  { table with rows := if properties.endRow then rows ++ [[]] else rows }

/-- The cells in the order in which they were added. -/
def cells (table : Table α) : List (Cell α) :=
  table.rows.flatten

/-- The number of rows that hold a cell. -/
def rowCount (table : Table α) : Nat :=
  (table.rows.filter fun row => !row.isEmpty).length

/-- Adding a cell to rows puts it behind all others. -/
theorem flatten_appendCell
    (cell : Cell α)
    (rows : List (List (Cell α))) :
    (appendCell cell rows).flatten = rows.flatten ++ [cell] := by
  fun_induction appendCell cell rows with
  | case1 => rfl
  | case2 row => simp
  | case3 row next rest inductionHypothesis => simp [inductionHypothesis]

/-- Adding a cell to a table puts it behind all others. -/
theorem cells_add
    (table : Table α)
    (widget : α)
    (properties : CellProperties) :
    (table.add widget properties).cells = table.cells ++ [⟨properties, widget⟩] := by
  unfold add cells
  split <;> simp [flatten_appendCell]

end Table

end WidgetMarkup
