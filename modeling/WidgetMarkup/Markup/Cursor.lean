import WidgetMarkup.Markup.Position
import WidgetMarkup.Text.Character

namespace WidgetMarkup.Markup

/-!
# Reading heads

A cursor is what is left of a source and the place where it begins. It only moves forward, and
its place is the one after the characters it has passed.
-/

/-- What is left of a source text, and where it begins. -/
structure Cursor where
  position : Position
  rest : List Char
deriving Repr, DecidableEq

namespace Cursor

/-- The cursor before the first character of a source. -/
def ofSource (source : String) : Cursor :=
  ⟨.start, source.toList⟩

/-- The character under the cursor. -/
def next? (cursor : Cursor) : Option Char :=
  cursor.rest.head?

/-- The cursor some characters further on, or at the end. -/
def skip (cursor : Cursor) (count : Nat) : Cursor :=
  ⟨cursor.position.after (cursor.rest.take count), cursor.rest.drop count⟩

/-- The run of characters under the cursor that satisfy a test. -/
def run (cursor : Cursor) (test : Char → Bool) : List Char :=
  cursor.rest.takeWhile test

/-- The cursor after the run of characters that satisfy a test. -/
def skipRun (cursor : Cursor) (test : Char → Bool) : Cursor :=
  cursor.skip (cursor.run test).length

/-- The cursor at the next character that is not blank. -/
def skipBlanks (cursor : Cursor) : Cursor :=
  cursor.skipRun Text.isBlank

/-- Whether the source goes on with the given characters. -/
def startsWith (cursor : Cursor) (characters : List Char) : Bool :=
  characters.isPrefixOf cursor.rest

/-- Skipping leaves no more than there was. -/
theorem length_skip_le
    (cursor : Cursor)
    (count : Nat) :
    (cursor.skip count).rest.length ≤ cursor.rest.length := by
  simp [skip]

/-- Skipping something leaves less, if there is anything left. -/
theorem length_skip_lt
    (cursor : Cursor)
    {count : Nat}
    (positive : 0 < count)
    (more : cursor.rest ≠ []) :
    (cursor.skip count).rest.length < cursor.rest.length := by
  have := List.length_pos_iff.2 more
  simp only [skip, List.length_drop]
  omega

/-- Skipping a run leaves no more than there was. -/
theorem length_skipRun_le
    (cursor : Cursor)
    (test : Char → Bool) :
    (cursor.skipRun test).rest.length ≤ cursor.rest.length :=
  cursor.length_skip_le _

/-- Skipping a run that is not empty leaves less. -/
theorem length_skipRun_lt
    (cursor : Cursor)
    (test : Char → Bool)
    (nonempty : cursor.run test ≠ []) :
    (cursor.skipRun test).rest.length < cursor.rest.length := by
  apply length_skip_lt
  · exact List.length_pos_iff.2 nonempty
  · intro empty
    simp [run, empty] at nonempty

/-- Skipping blanks leaves no more than there was. -/
theorem length_skipBlanks_le
    (cursor : Cursor) :
    cursor.skipBlanks.rest.length ≤ cursor.rest.length :=
  cursor.length_skipRun_le _

end Cursor

end WidgetMarkup.Markup
