import Mathlib.Data.List.Induction
import WidgetMarkup.Widget.Table

namespace WidgetMarkup.Table

/-!
# Rows of tables

What becomes of a table when cells are added to it. The rows of a table that was empty are its
cells, cut behind each that ends its row. The last of these rows is open: it takes the next cell,
and it is there even if it holds none.
-/

variable {α : Type}

/-- The table with more cells, added one after another. -/
def addAll (cells : List (Cell α)) (table : Table α) : Table α :=
  cells.foldl (fun table cell => table.add cell.widget cell.properties) table

theorem addAll_append
    (first second : List (Cell α))
    (table : Table α) :
    table.addAll (first ++ second) = (table.addAll first).addAll second :=
  List.foldl_append

theorem defaults_add
    (widget : α)
    (properties : CellProperties)
    (table : Table α) :
    (table.add widget properties).defaults = table.defaults :=
  rfl

theorem defaults_addAll
    (cells : List (Cell α))
    (table : Table α) :
    (table.addAll cells).defaults = table.defaults := by
  induction cells generalizing table with
  | nil =>
      rfl
  | cons first rest inductionHypothesis =>
      exact (inductionHypothesis _).trans (defaults_add _ _ table)

theorem cells_addAll
    (cells : List (Cell α))
    (table : Table α) :
    (table.addAll cells).cells = table.cells ++ cells := by
  induction cells generalizing table with
  | nil =>
      exact (List.append_nil _).symm
  | cons first rest inductionHypothesis =>
      exact (inductionHypothesis _).trans (by rw [cells_add, List.append_assoc]; rfl)

theorem rows_add_congr
    {first second : Table α}
    (same : first.rows = second.rows)
    (widget : α)
    (properties : CellProperties) :
    (first.add widget properties).rows = (second.add widget properties).rows := by
  simp only [add, same]

/-- The rows of a table do not depend on its defaults. -/
theorem rows_addAll_congr
    {first second : Table α}
    (same : first.rows = second.rows)
    (cells : List (Cell α)) :
    (first.addAll cells).rows = (second.addAll cells).rows := by
  induction cells generalizing first second with
  | nil =>
      exact same
  | cons cell rest inductionHypothesis =>
      exact inductionHypothesis (rows_add_congr same _ _)

/-- Cells in rows, cut behind each cell that ends its row. What is left at the end is the last row,
even if it is nothing. -/
def cut : List (Cell α) → List (List (Cell α))
  | [] => [[]]
  | cell :: rest =>
      if cell.properties.endRow then
        [cell] :: cut rest
      else
        (cut rest).modifyHead (cell :: ·)

/-- A row that takes no more cells: its last cell ends it, and no other does. -/
def IsClosed (row : List (Cell α)) : Prop :=
  ∃ front last,
    row = front ++ [last] ∧
      last.properties.endRow = true ∧
        ∀ cell ∈ front, cell.properties.endRow = false

/-- A row that takes the next cell: none of its cells ends it. -/
def IsOpen (row : List (Cell α)) : Prop :=
  ∀ cell ∈ row, cell.properties.endRow = false

/-- A cell in front of a row that ends elsewhere does not end it. -/
theorem IsClosed.cons
    {row : List (Cell α)}
    {cell : Cell α}
    (isClosed : IsClosed row)
    (goesOn : cell.properties.endRow = false) :
    IsClosed (cell :: row) := by
  obtain ⟨front, last, rfl, ends, inside⟩ := isClosed
  exact ⟨cell :: front, last, rfl, ends, List.forall_mem_cons.mpr ⟨goesOn, inside⟩⟩

/-- There is always a row. -/
theorem cut_ne_nil
    (cells : List (Cell α)) :
    cut cells ≠ [] := by
  induction cells with
  | nil =>
      exact List.cons_ne_nil [] []
  | cons cell rest inductionHypothesis =>
      rw [cut]
      split
      · exact List.cons_ne_nil _ _
      · rwa [ne_eq, List.modifyHead_eq_nil_iff]

/-- The rows end with an open one, and all before it are closed. -/
structure AreClosedButLast (rows : List (List (Cell α))) : Prop where
  closed :
    ∀ row ∈ rows.dropLast, IsClosed row
  lastOpen :
    ∀ row ∈ rows.getLast?, IsOpen row

/-- Cutting leaves the cells in their order. -/
theorem flatten_cut
    (cells : List (Cell α)) :
    (cut cells).flatten = cells := by
  induction cells with
  | nil =>
      rfl
  | cons cell rest inductionHypothesis =>
      obtain ⟨row, rows, shape⟩ := List.exists_cons_of_ne_nil (cut_ne_nil rest)
      rw [cut]
      split
      · rw [List.flatten_cons, inductionHypothesis, List.singleton_append]
      · rw [shape, List.modifyHead_cons, List.flatten_cons, List.cons_append, ← List.flatten_cons,
          ← shape, inductionHypothesis]

theorem areClosedButLast_cut
    (cells : List (Cell α)) :
    AreClosedButLast (cut cells) := by
  induction cells with
  | nil =>
      exact ⟨by simp [cut], by simp [cut, IsOpen]⟩
  | cons cell rest inductionHypothesis =>
      obtain ⟨closed, lastOpen⟩ := inductionHypothesis
      obtain ⟨row, rows, shape⟩ := List.exists_cons_of_ne_nil (cut_ne_nil rest)
      rw [cut]
      rw [shape] at closed lastOpen ⊢
      split
      · rename_i ends
        refine ⟨?_, lastOpen⟩
        rw [List.dropLast_cons_of_ne_nil (List.cons_ne_nil row rows), List.forall_mem_cons]
        exact ⟨⟨[], cell, rfl, ends, List.forall_mem_nil _⟩, closed⟩
      · rename_i goesOn
        rw [Bool.not_eq_true] at goesOn
        rw [List.modifyHead_cons]
        cases rows with
        | nil =>
            refine ⟨List.forall_mem_nil _, ?_⟩
            rintro _ ⟨⟩
            exact List.forall_mem_cons.mpr ⟨goesOn, lastOpen row rfl⟩
        | cons next others =>
            rw [List.dropLast_cons_of_ne_nil (List.cons_ne_nil next others),
              List.forall_mem_cons] at closed
            refine ⟨?_, lastOpen⟩
            rw [List.dropLast_cons_of_ne_nil (List.cons_ne_nil next others), List.forall_mem_cons]
            exact ⟨closed.1.cons goesOn, closed.2⟩

/-- One more cell goes into the last row, and opens a new one if it ends that row. -/
theorem cut_concat
    (cells : List (Cell α))
    (cell : Cell α) :
    cut (cells ++ [cell]) =
      if cell.properties.endRow then
        appendCell cell (cut cells) ++ [[]]
      else
        appendCell cell (cut cells) := by
  induction cells with
  | nil =>
      simp [cut, appendCell]
  | cons first rest inductionHypothesis =>
      obtain ⟨row, rows, shape⟩ := List.exists_cons_of_ne_nil (cut_ne_nil rest)
      rw [List.cons_append, cut, cut, inductionHypothesis, shape]
      by_cases ends : cell.properties.endRow = true
      · by_cases firstEnds : first.properties.endRow = true
        · simp [ends, firstEnds, appendCell]
        · cases rows <;> simp [ends, firstEnds, appendCell]
      · by_cases firstEnds : first.properties.endRow = true
        · simp [ends, firstEnds, appendCell]
        · cases rows <;> simp [ends, firstEnds, appendCell]

/-- The first cell of a table without rows opens one. -/
theorem appendCell_nil
    (cell : Cell α) :
    appendCell cell [] = appendCell cell [[]] :=
  rfl

/-- Adding a cell to a table whose rows are cut from cells cuts it off from all of them. -/
theorem rows_add_of_cut
    {table : Table α}
    {cells : List (Cell α)}
    (areCut : table.rows = cut cells ∨ table.rows = [] ∧ cells = [])
    (cell : Cell α) :
    (table.add cell.widget cell.properties).rows = cut (cells ++ [cell]) := by
  rw [cut_concat]
  obtain areCut | ⟨noRows, rfl⟩ := areCut
  · simp only [add, areCut]
  · simp only [add, noRows, appendCell_nil, cut]

/-- The rows of a table that was empty are its cells, cut behind each that ends its row. -/
theorem rows_addAll_eq_cut
    {table : Table α}
    (isEmpty : table.rows = [[]] ∨ table.rows = [])
    (cells : List (Cell α)) :
    (table.addAll cells).rows = if cells = [] then table.rows else cut cells := by
  induction cells using List.reverseRecOn with
  | nil =>
      rw [if_pos rfl]
      rfl
  | append_singleton front last inductionHypothesis =>
      rw [if_neg (List.append_ne_nil_of_right_ne_nil front (List.cons_ne_nil last [])),
        addAll_append]
      refine rows_add_of_cut ?_ last
      rw [inductionHypothesis]
      by_cases noneBefore : front = []
      · subst noneBefore
        rw [if_pos rfl]
        exact isEmpty.imp_right fun noRows => ⟨noRows, rfl⟩
      · rw [if_neg noneBefore]
        exact .inl rfl

/-- Whether a cell follows the last one that ends a row, which is to say that the very last cell
ends none. -/
def hasOpenCells (cells : List (Cell α)) : Bool :=
  cells.getLast?.any fun last => !last.properties.endRow

/-- The first row begins with the first cell. -/
theorem exists_cut_cons
    (cell : Cell α)
    (rest : List (Cell α)) :
    ∃ row rows, cut (cell :: rest) = (cell :: row) :: rows := by
  obtain ⟨row, rows, shape⟩ := List.exists_cons_of_ne_nil (cut_ne_nil rest)
  rw [cut]
  split
  · exact ⟨[], cut rest, rfl⟩
  · exact ⟨row, rows, by rw [shape, List.modifyHead_cons]⟩

/-- The rows that hold cells: one for each cell that ends its row, and the open one if it holds
any. -/
theorem length_filter_cut
    (cells : List (Cell α)) :
    ((cut cells).filter fun row => !row.isEmpty).length =
      cells.countP (fun cell => cell.properties.endRow) + if hasOpenCells cells then 1 else 0 := by
  induction cells with
  | nil =>
      rfl
  | cons cell rest inductionHypothesis =>
      rw [cut, List.countP_cons]
      cases rest with
      | nil =>
          cases ends : cell.properties.endRow <;> simp [cut, hasOpenCells, ends]
      | cons next others =>
          have sameEnd : hasOpenCells (cell :: next :: others) = hasOpenCells (next :: others) := by
            rw [hasOpenCells, hasOpenCells, List.getLast?_cons_cons]
          rw [sameEnd]
          split
          · rw [List.filter_cons_of_pos rfl, List.length_cons, inductionHypothesis]
            omega
          · obtain ⟨row, rows, shape⟩ := exists_cut_cons next others
            rw [shape, List.filter_cons_of_pos rfl, List.length_cons] at inductionHypothesis
            rw [shape, List.modifyHead_cons, List.filter_cons_of_pos rfl, List.length_cons,
              inductionHypothesis, Nat.add_zero]

/--
Cells that are added to a fresh table, or to one whose rows were taken away, stand in its rows in
their order, cut behind each cell that ends its row: all rows but the last are closed and the last
is open. The rows that hold cells are as many as the cells that end rows, and one more if a cell
follows the last of these.
-/
theorem rows_of_addAll
    {table : Table α}
    (isEmpty : table.rows = [[]] ∨ table.rows = [])
    (cells : List (Cell α)) :
    (table.addAll cells).rows = (if cells = [] then table.rows else cut cells) ∧
      (table.addAll cells).rows.flatten = cells ∧
        AreClosedButLast (table.addAll cells).rows ∧
          (table.addAll cells).rowCount =
            cells.countP (fun cell => cell.properties.endRow) + if hasOpenCells cells then 1 else 0 := by
  have rows := rows_addAll_eq_cut isEmpty cells
  refine ⟨rows, ?_⟩
  rw [rowCount, rows]
  split
  · rename_i noCells
    subst noCells
    obtain isFresh | noRows := isEmpty
    · rw [isFresh]
      exact ⟨rfl, areClosedButLast_cut [], rfl⟩
    · rw [noRows]
      exact ⟨rfl, ⟨nofun, nofun⟩, rfl⟩
  · exact ⟨flatten_cut cells, areClosedButLast_cut cells, length_filter_cut cells⟩

/-- Three cells, the first of which ends its row, in a table whose rows were taken away. -/
theorem rows_of_addAll_cleared :
    let ending : CellProperties := { endRow := true }
    let table : Table Nat := { rows := [] }
    let filled := table.addAll [⟨ending, 1⟩, ⟨{}, 2⟩, ⟨{}, 3⟩]
    table.rows = [] ∧
      filled.rows = [[⟨ending, 1⟩], [⟨{}, 2⟩, ⟨{}, 3⟩]] ∧ filled.rowCount = 2 := by
  intro ending table filled
  have isCleared : table.rows = [[]] ∨ table.rows = [] := .inr rfl
  obtain ⟨rows, -, -, counted⟩ := rows_of_addAll isCleared [⟨ending, 1⟩, ⟨{}, 2⟩, ⟨{}, 3⟩]
  refine ⟨rfl, ?_, ?_⟩
  · rw [rows]
    simp [cut, ending]
  · rw [counted]
    simp [hasOpenCells, ending]

end WidgetMarkup.Table
