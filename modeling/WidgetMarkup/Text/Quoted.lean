import WidgetMarkup.Text.Character

namespace WidgetMarkup.Text

/-!
# Quoted text

Text and characters between quotes, with a backslash notation for what has no visible form of
its own. Messages and outlines show names and values in this form, so that no value can break a
line or run into the text around it.
-/

/-- The hexadecimal digits of a number, without leading zeros. -/
def hexadecimal (number : Nat) : List Char :=
  Nat.toDigits 16 number

/-- The opening brace of a code point in backslash notation. -/
def openBrace : Char := '\x7b'

/-- The closing brace of a code point in backslash notation. -/
def closeBrace : Char := '\x7d'

/-- A character as it stands between quotes of the given kind. -/
def escapeCharacter (quote : Char) (character : Char) : List Char :=
  if character = '\x00' then
    ['\\', '0']
  else if character = '\t' then
    ['\\', 't']
  else if character = '\r' then
    ['\\', 'r']
  else if character = '\n' then
    ['\\', 'n']
  else if character = '\\' ∨ character = quote then
    ['\\', character]
  else if isExtending character || !isPrintable character then
    ['\\', 'u', openBrace] ++ hexadecimal character.toNat ++ [closeBrace]
  else
    [character]

/-- A text between double quotes. -/
def quote (text : String) : String :=
  String.ofList ('\x22' :: text.toList.flatMap (escapeCharacter '\x22') ++ ['\x22'])

/-- A character between single quotes. -/
def quoteCharacter (character : Char) : String :=
  String.ofList ('\x27' :: escapeCharacter '\x27' character ++ ['\x27'])

end WidgetMarkup.Text
