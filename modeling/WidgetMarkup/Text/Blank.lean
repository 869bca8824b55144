import WidgetMarkup.Text.Character

namespace WidgetMarkup.Text

/-!
# Blanks, lines and lists

Trimming, the lines of a text and the pieces between separators. Each is a function on lists of
characters with a wrapper on strings.
-/

/-- The characters from the first one that is not blank. -/
def trimStart (characters : List Char) : List Char :=
  characters.dropWhile isBlank

/-- The characters up to the last one that is not blank. -/
def trimEnd (characters : List Char) : List Char :=
  (characters.reverse.dropWhile isBlank).reverse

/-- The characters between the first and the last that are not blank. -/
def trimCharacters (characters : List Char) : List Char :=
  trimEnd (trimStart characters)

/-- The text without the blanks at its ends. -/
def trim (text : String) : String :=
  String.ofList (trimCharacters text.toList)

/-- Whether a text holds nothing but blanks. -/
def isBlankText (text : String) : Bool :=
  text.toList.all isBlank

/-- The pieces between the characters that satisfy the test; there is always one. -/
def splitCharacters
    (isSeparator : Char → Bool) :
    List Char →
    List (List Char)
  | [] => [[]]
  | character :: rest =>
      match splitCharacters isSeparator rest with
      | [] => [[character]]
      | piece :: pieces =>
          if isSeparator character then
            [] :: piece :: pieces
          else
            (character :: piece) :: pieces

/-- The pieces of a text between occurrences of a separator. -/
def split (separator : Char) (text : String) : List String :=
  (splitCharacters (· == separator) text.toList).map String.ofList

/-- The line without the carriage return at its end, if there is one. -/
def dropCarriageReturn (line : List Char) : List Char :=
  if line.getLast? = some '\r' then line.dropLast else line

/--
The lines of a sequence of pieces that were cut at line feeds: a carriage return before a line
feed belongs to the line end, and nothing after the last line feed is no line.
-/
def linesOfPieces : List (List Char) → List (List Char)
  | [] => []
  | [last] => if last.isEmpty then [] else [last]
  | piece :: next :: pieces => dropCarriageReturn piece :: linesOfPieces (next :: pieces)

/-- The lines of a text, without their line ends. -/
def lines (text : String) : List String :=
  (linesOfPieces (splitCharacters (· == '\n') text.toList)).map String.ofList

/-- The lines of a text that hold more than blanks, each trimmed. -/
def trimmedLines (text : String) : List String :=
  ((lines text).map trim).filter fun line => !line.isEmpty

/-- The texts one after another with a separator between them. -/
def join (separator : String) (texts : List String) : String :=
  separator.intercalate texts

/-- There is at least one piece. -/
theorem splitCharacters_ne_nil
    (isSeparator : Char → Bool)
    (characters : List Char) :
    splitCharacters isSeparator characters ≠ [] := by
  cases characters with
  | nil =>
      simp [splitCharacters]
  | cons character rest =>
      unfold splitCharacters
      split
      · simp
      · split <;> simp

end WidgetMarkup.Text
