namespace WidgetMarkup.Markup

/-!
# Positions in a source text

A place is a line and a column, both counted from one in characters. The place after some
characters depends on nothing but the place before them, so that readers may take several
characters at once and still know where they are.
-/

/-- A place in a source text. -/
structure Position where
  line : Nat
  column : Nat
deriving Repr, DecidableEq, Inhabited

namespace Position

/-- The place of the first character. -/
def start : Position := ⟨1, 1⟩

/-- The place after a character: a line feed opens a new line. -/
def advance (position : Position) (character : Char) : Position :=
  if character = '\n' then
    ⟨position.line + 1, 1⟩
  else
    ⟨position.line, position.column + 1⟩

/-- The place after a run of characters. -/
def after (position : Position) (characters : List Char) : Position :=
  characters.foldl advance position

/-- Nothing moves the place not at all. -/
@[simp] theorem after_nil
    (position : Position) :
    position.after [] = position :=
  rfl

/-- The first character of a run moves first. -/
@[simp] theorem after_cons
    (position : Position)
    (character : Char)
    (rest : List Char) :
    position.after (character :: rest) = (position.advance character).after rest :=
  rfl

/-- Two runs move one after the other. -/
theorem after_append
    (position : Position)
    (first second : List Char) :
    position.after (first ++ second) = (position.after first).after second := by
  simp [after]

end Position

end WidgetMarkup.Markup
