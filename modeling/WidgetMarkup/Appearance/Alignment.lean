import WidgetMarkup.AttributeValue

namespace WidgetMarkup

/-!
# Alignments

The nine places inside an area and how they are written.
-/

/-- A place inside an area. -/
inductive Alignment where
  | center
  | top
  | bottom
  | left
  | right
  | topLeft
  | topRight
  | bottomLeft
  | bottomRight
deriving Repr, DecidableEq, Inhabited

namespace Alignment

/-- The name of an alignment, its words run together. -/
def name : Alignment → String
  | center => "Center"
  | top => "Top"
  | bottom => "Bottom"
  | left => "Left"
  | right => "Right"
  | topLeft => "TopLeft"
  | topRight => "TopRight"
  | bottomLeft => "BottomLeft"
  | bottomRight => "BottomRight"

/-- Every alignment. -/
def all : List Alignment :=
  [center, top, bottom, left, right, topLeft, topRight, bottomLeft, bottomRight]

/-- The alignments by their folded names. -/
def named : List (String × Alignment) :=
  all.map fun alignment => (Text.foldCase alignment.name, alignment)

/-- Whether a character may stand between the words of a name. -/
def isJoint (character : Char) : Bool :=
  character == '-' || character == '_' || character == ' '

/-- Reads an alignment, in any case and with joints anywhere. -/
def read (raw : String) : Except ValueError Alignment :=
  let letters := (Text.trimCharacters raw.toList).filter fun character => !isJoint character
  match named.lookup (Text.foldCase (String.ofList letters)) with
  | some alignment => .ok alignment
  | none => .error (.notAnAlignment raw)

end Alignment

end WidgetMarkup
