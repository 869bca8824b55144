import WidgetMarkup.Text.AlphabeticRanges
import WidgetMarkup.Text.NumericRanges
import WidgetMarkup.Text.ExtendingRanges
import WidgetMarkup.Text.UnprintableRanges

namespace WidgetMarkup.Text

/-!
# Character classes

The classes of characters that names, blanks, identifiers and quoted text are made of. ASCII
characters are decided by comparison; the tables answer for all others.
-/

/-- Whether a code point lies in one of the inclusive ranges. -/
def inRanges (ranges : List (Nat × Nat)) (code : Nat) : Bool :=
  ranges.any fun range => range.1 ≤ code && code ≤ range.2

/-- The characters with the Unicode property White Space. -/
def isBlank (character : Char) : Bool :=
  let code := character.toNat
  (0x09 ≤ code && code ≤ 0x0d) || code == 0x20 || code == 0x85 || code == 0xa0 ||
    code == 0x1680 || (0x2000 ≤ code && code ≤ 0x200a) || code == 0x2028 || code == 0x2029 ||
    code == 0x202f || code == 0x205f || code == 0x3000

/-- The characters with the Unicode property Alphabetic. -/
def isAlphabetic (character : Char) : Bool :=
  if character.toNat < 0x80 then
    character.isAlpha
  else
    inRanges alphabeticRanges character.toNat

/-- The alphabetic characters and those of the number categories. -/
def isAlphanumeric (character : Char) : Bool :=
  if character.toNat < 0x80 then
    character.isAlphanum
  else
    inRanges alphabeticRanges character.toNat || inRanges numericRanges character.toNat

/-- Whether a character only extends the one before it, as a combining mark does. -/
def isExtending (character : Char) : Bool :=
  if character.toNat < 0x80 then
    false
  else
    inRanges extendingRanges character.toNat

/-- Whether a character has a visible form of its own (the space counts). -/
def isPrintable (character : Char) : Bool :=
  if character.toNat < 0x80 then
    0x20 ≤ character.toNat && character.toNat < 0x7f
  else
    !inRanges unprintableRanges character.toNat

/-- The value of a digit in bases up to sixteen, letters in either case. -/
def digitValue? (character : Char) : Option Nat :=
  if '0' ≤ character ∧ character ≤ '9' then
    some (character.toNat - '0'.toNat)
  else if 'a' ≤ character ∧ character ≤ 'f' then
    some (character.toNat - 'a'.toNat + 10)
  else if 'A' ≤ character ∧ character ≤ 'F' then
    some (character.toNat - 'A'.toNat + 10)
  else
    none

/-- Every blank that the core library knows is a blank here. -/
theorem isBlank_of_isWhitespace
    {character : Char}
    (blank : character.isWhitespace = true) :
    isBlank character = true := by
  simp only [Char.isWhitespace, Bool.or_eq_true, decide_eq_true_eq] at blank
  rcases blank with ((blank | blank) | blank) | blank <;> subst blank <;> decide

end WidgetMarkup.Text
