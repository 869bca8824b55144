import WidgetMarkup.Text.Case

namespace WidgetMarkup

/-!
# Tables keyed by names

A table holds one entry for each name, names being equal up to the case of ASCII letters. Writing
an entry replaces the one that was there.
-/

/-- A table of entries under folded names. -/
structure NameTable (α : Type) where
  entries : List (String × α) := []

namespace NameTable

/-- The entry under a name. -/
def find? (table : NameTable α) (name : String) : Option α :=
  table.entries.lookup (Text.foldCase name)

/-- Whether there is an entry under a name. -/
def contains (table : NameTable α) (name : String) : Bool :=
  (table.find? name).isSome

/-- The table with an entry under a name, in place of any that was there. -/
def insert (table : NameTable α) (name : String) (entry : α) : NameTable α :=
  let key := Text.foldCase name
  ⟨(key, entry) :: table.entries.filter fun old => old.1 != key⟩

/-- The table with the same entry under several names. -/
def insertAll (table : NameTable α) (names : List String) (entry : α) : NameTable α :=
  names.foldl (fun table name => table.insert name entry) table

/-- The table with the entry under a name changed, or made from nothing. -/
def update (table : NameTable α) (name : String) (change : Option α → α) : NameTable α :=
  table.insert name (change (table.find? name))

/-- The folded names in the table, in the order of their characters. -/
def names (table : NameTable α) : List String :=
  (table.entries.map Prod.fst).mergeSort fun left right => decide (left ≤ right)

/-- An entry is found under every spelling of its name. -/
theorem find?_congr
    {name name' : String}
    (same : Text.foldCase name = Text.foldCase name')
    (table : NameTable α) :
    table.find? name = table.find? name' := by
  rw [find?, find?, same]

/-- The entry just written is found under every spelling of its name. -/
theorem find?_insert
    (table : NameTable α)
    (name other : String)
    (entry : α) :
    (table.insert name entry).find? other =
      if Text.sameName name other then some entry else table.find? other := by
  simp only [find?, insert, Text.sameName, beq_iff_eq]
  split
  · rename_i same
    simp [same]
  · rename_i different
    have distinct : (Text.foldCase other == Text.foldCase name) = false := by
      simpa using fun equal => different equal.symm
    simp only [List.lookup_cons, distinct]
    generalize table.entries = entries
    induction entries with
    | nil =>
        rfl
    | cons first rest inductionHypothesis =>
        obtain ⟨key, old⟩ := first
        simp only [List.filter]
        split
        · simp [List.lookup_cons, inductionHypothesis]
        · rename_i dropped
          have equal : key = Text.foldCase name := by simpa using dropped
          simp [List.lookup_cons, inductionHypothesis, equal, distinct]

end NameTable

end WidgetMarkup
