namespace WidgetMarkup.Text

/-!
# Letter case

Names are compared up to the case of ASCII letters; all other characters stand for themselves.
-/

/-- The text with its ASCII capitals made small. -/
def foldCase (text : String) : String :=
  text.map Char.toLower

/-- Whether two texts are equal up to the case of ASCII letters. -/
def sameName (left right : String) : Bool :=
  foldCase left == foldCase right

/-- Two names are the same exactly if their folded forms are equal. -/
theorem sameName_iff
    {left right : String} :
    sameName left right = true ↔ foldCase left = foldCase right := by
  simp [sameName]

/-- Two names are the same exactly if their characters are, all made small. -/
theorem sameName_iff_toList
    {left right : String} :
    sameName left right = true ↔
      left.toList.map Char.toLower = right.toList.map Char.toLower := by
  rw [sameName_iff, foldCase, foldCase, ← String.toList_inj, String.toList_map,
    String.toList_map]

/-- A name is the same as itself. -/
@[simp] theorem sameName_self
    (name : String) :
    sameName name name = true := by
  simp [sameName]

end WidgetMarkup.Text
