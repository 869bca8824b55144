import WidgetMarkup.AttributeValue
import WidgetMarkup.Text.Quoted

namespace WidgetMarkup

/-!
# Colors

Colors with four components between zero and one, their hexadecimal notation in bytes and the
names of some of them.
-/

/-- A color with straight alpha. -/
structure Color where
  red : Float32
  green : Float32
  blue : Float32
  alpha : Float32 := 1.0
deriving Repr, BEq, Inhabited

namespace Color

/-- The component that a byte stands for. -/
def ofByte (byte : Nat) : Float32 :=
  Float32.ofNat byte / 255.0

/-- The color of four bytes. -/
def ofBytes (red green blue alpha : Nat) : Color :=
  ⟨ofByte red, ofByte green, ofByte blue, ofByte alpha⟩

/-- The nearest byte of a component: clamped first, halves away from zero, no number as zero. -/
def toByte (component : Float32) : Nat :=
  let clamped :=
    if component < 0.0 then 0.0 else if component > 1.0 then 1.0 else component
  (clamped * 255.0).round.toUInt8.toNat

/-- The bytes of a color, alpha last. -/
def toBytes (color : Color) : List Nat :=
  [toByte color.red, toByte color.green, toByte color.blue, toByte color.alpha]

/-- A byte in two hexadecimal digits. -/
def hexadecimalByte (byte : Nat) : List Char :=
  let digits := Text.hexadecimal byte
  if digits.length < 2 then '0' :: digits else digits

/-- The hexadecimal notation of a color, with alpha. -/
def render (color : Color) : String :=
  String.ofList ('#' :: color.toBytes.flatMap hexadecimalByte)

/-- The colors that have names, the names in small letters. -/
def named : List (String × Color) :=
  [ ("white", ⟨1.0, 1.0, 1.0, 1.0⟩),
    ("black", ⟨0.0, 0.0, 0.0, 1.0⟩),
    ("clear", ⟨0.0, 0.0, 0.0, 0.0⟩),
    ("transparent", ⟨0.0, 0.0, 0.0, 0.0⟩),
    ("red", ⟨1.0, 0.0, 0.0, 1.0⟩),
    ("green", ⟨0.0, 1.0, 0.0, 1.0⟩),
    ("blue", ⟨0.0, 0.0, 1.0, 1.0⟩),
    ("yellow", ⟨1.0, 1.0, 0.0, 1.0⟩),
    ("gray", ⟨0.5, 0.5, 0.5, 1.0⟩),
    ("grey", ⟨0.5, 0.5, 0.5, 1.0⟩) ]

/-- The bytes that pairs of hexadecimal digits spell. -/
def readBytes? : List Char → Option (List Nat)
  | [] => some []
  | high :: low :: rest =>
      match Text.digitValue? high, Text.digitValue? low, readBytes? rest with
      | some first, some second, some bytes => some ((first * 16 + second) :: bytes)
      | _, _, _ => none
  | [_] => none

/-- Reads a color: `#` and six or eight hexadecimal digits, or a name in any case. -/
def read (raw : String) : Except ValueError Color :=
  match Text.trimCharacters raw.toList with
  | '#' :: digits =>
      match readBytes? digits with
      | some [red, green, blue] => .ok (ofBytes red green blue 255)
      | some [red, green, blue, alpha] => .ok (ofBytes red green blue alpha)
      | _ => .error (.notAColor raw)
  | characters =>
      match named.lookup (Text.foldCase (String.ofList characters)) with
      | some color => .ok color
      | none => .error (.notAColor raw)

end Color

end WidgetMarkup
