import WidgetMarkup.Number.Natural

namespace WidgetMarkup.Markup

/-!
# Character references

A reference stands for a character that markup could not hold otherwise: five of them have names,
and every character has its number, decimal or hexadecimal. What looks like a reference but is
none stays as it is, and a decoded character is never read again.
-/

/-- The ampersand that opens a reference. -/
def isReferenceOpening (character : Char) : Bool :=
  character == '&'

/-- The character with a given number, if there is one. -/
def characterOfNumber? (number : Nat) : Option Char :=
  if number.isValidChar then some (Char.ofNat number) else none

/-- The number in a numeric reference, between the ampersand and the semicolon. -/
def referenceNumber? : List Char → Option Nat
  | '#' :: 'x' :: digits => Number.readNatural? 16 UInt32.size digits
  | '#' :: digits => Number.readNatural? 10 UInt32.size digits
  | _ => none

/-- The character that a reference stands for, given what is between ampersand and semicolon. -/
def referencedCharacter? (body : List Char) : Option Char :=
  match body with
  | ['l', 't'] => some '<'
  | ['g', 't'] => some '>'
  | ['a', 'm', 'p'] => some '&'
  | ['q', 'u', 'o', 't'] => some '\x22'
  | ['a', 'p', 'o', 's'] => some '\x27'
  | _ => (referenceNumber? body).bind characterOfNumber?

/-- What stands before the first semicolon and after it, if there is a semicolon. -/
def splitAtSemicolon? : List Char → Option (List Char × List Char)
  | [] => none
  | character :: rest =>
      if character = ';' then
        some ([], rest)
      else
        (splitAtSemicolon? rest).map fun parts => (character :: parts.1, parts.2)

/-- The reference right after an ampersand: its character and what follows its semicolon. -/
def readReference? (characters : List Char) : Option (Char × List Char) :=
  match splitAtSemicolon? characters with
  | some (body, rest) => (referencedCharacter? body).map fun character => (character, rest)
  | none => none

/-- What follows a semicolon is shorter than the whole. -/
theorem splitAtSemicolon?_length
    {characters before after : List Char}
    (found : splitAtSemicolon? characters = some (before, after)) :
    after.length < characters.length := by
  induction characters generalizing before after with
  | nil =>
      simp [splitAtSemicolon?] at found
  | cons character rest inductionHypothesis =>
      unfold splitAtSemicolon? at found
      split at found
      · cases found
        simp
      · simp only [Option.map_eq_some_iff] at found
        obtain ⟨⟨before', after'⟩, foundRest, equal⟩ := found
        cases equal
        have := inductionHypothesis foundRest
        simp
        omega

/-- What follows a reference is shorter than the text after its ampersand. -/
theorem readReference?_length
    {characters rest : List Char}
    {character : Char}
    (found : readReference? characters = some (character, rest)) :
    rest.length < characters.length := by
  unfold readReference? at found
  split at found
  · rename_i body rest' splitFound
    simp only [Option.map_eq_some_iff] at found
    obtain ⟨_, _, equal⟩ := found
    cases equal
    exact splitAtSemicolon?_length splitFound
  · cases found

/-- The text with every reference replaced by its character. -/
def decodeCharacters : List Char → List Char
  | [] => []
  | character :: rest =>
      if isReferenceOpening character then
        match _found : readReference? rest with
        | some (decoded, after) => decoded :: decodeCharacters after
        | none => character :: decodeCharacters rest
      else
        character :: decodeCharacters rest
termination_by characters => characters.length
decreasing_by
  · have := readReference?_length _found
    simp
    omega
  · simp
  · simp

/-- The text with every reference replaced by its character. -/
def decodeReferences (text : String) : String :=
  String.ofList (decodeCharacters text.toList)

end WidgetMarkup.Markup
