import WidgetMarkup.Expression.Token
import WidgetMarkup.Text.Character

namespace WidgetMarkup.Expression

/-!
# Reading the words of an expression

From the source of an expression to its tokens. A word takes at least one character, and blanks
between words are passed over.
-/

/-- The characters of numbers. -/
def isNumberCharacter (character : Char) : Bool :=
  character.isDigit || character == '.'

/-- The characters that identifiers begin with. -/
def isIdentifierStart (character : Char) : Bool :=
  Text.isAlphabetic character || character == '_'

/-- The characters that identifiers go on with. -/
def isIdentifierCharacter (character : Char) : Bool :=
  Text.isAlphanumeric character || character == '_' || character == '.' || character == ':'

/-- The operator that the characters begin with. -/
def operatorAt? (characters : List Char) : Option Operator :=
  Operator.all.find? fun operator => operator.spelling.isPrefixOf characters

/-- The characters before an ending and those after it, if the ending occurs. -/
def enclosed? (ending : Char) (characters : List Char) : Option (List Char × List Char) :=
  match characters.dropWhile (· != ending) with
  | [] => none
  | _ :: after => some (characters.takeWhile (· != ending), after)

/-- Reads the word that begins with the first of the characters, which is not blank. -/
def readWord (first : Char) (rest : List Char) : Except ExpressionError (Token × List Char) :=
  if first = '(' then
    .ok (.openParenthesis, rest)
  else if first = ')' then
    .ok (.closeParenthesis, rest)
  else if first = '\x27' ∨ first = '\x22' then
    match enclosed? first rest with
    | some (inside, after) => .ok (.text (String.ofList inside), after)
    | none => .error .unterminatedText
  else if first = Text.openBrace then
    match enclosed? Text.closeBrace rest with
    | some (inside, after) =>
        .ok (.placeholder (String.ofList (first :: inside ++ [Text.closeBrace])), after)
    | none => .error .unterminatedPlaceholder
  else if first.isDigit then
    let digits := first :: rest.takeWhile isNumberCharacter
    match Number.Double.read? digits with
    | some value => .ok (.number value, rest.dropWhile isNumberCharacter)
    | none => .error (.malformedNumber (String.ofList digits))
  else if isIdentifierStart first then
    .ok (.identifier (String.ofList (first :: rest.takeWhile isIdentifierCharacter)),
      rest.dropWhile isIdentifierCharacter)
  else
    match operatorAt? (first :: rest) with
    | some operator => .ok (.operator operator, rest.drop (operator.spelling.length - 1))
    | none => .error (.unexpectedCharacter first)

/-- Dropping a run leaves no more than there was. -/
theorem length_dropWhile_le
    (test : Char → Bool)
    (characters : List Char) :
    (characters.dropWhile test).length ≤ characters.length :=
  (List.dropWhile_sublist test).length_le

/-- What stands after an ending is no more than there was. -/
theorem length_enclosed?_le
    {ending : Char}
    {characters inside after : List Char}
    (found : enclosed? ending characters = some (inside, after)) :
    after.length ≤ characters.length := by
  unfold enclosed? at found
  split at found
  · cases found
  · rename_i equal
    cases found
    have bound := length_dropWhile_le (· != ending) characters
    simp [equal] at bound
    omega

/-- Reading a word leaves no more than what follows its first character. -/
theorem length_readWord_le
    {first : Char}
    {token : Token}
    {rest after : List Char}
    (read : readWord first rest = .ok (token, after)) :
    after.length ≤ rest.length := by
  unfold readWord at read
  split at read
  · cases read
    exact Nat.le_refl _
  split at read
  · cases read
    exact Nat.le_refl _
  split at read
  · split at read
    · rename_i found
      cases read
      exact length_enclosed?_le found
    · cases read
  split at read
  · split at read
    · rename_i found
      cases read
      exact length_enclosed?_le found
    · cases read
  split at read
  · simp only at read
    split at read
    · cases read
      exact length_dropWhile_le _ _
    · cases read
  split at read
  · cases read
    exact length_dropWhile_le _ _
  · split at read
    · cases read
      simp
    · cases read

/-- The tokens of an expression. -/
def readTokens : List Char → Except ExpressionError (List Token)
  | [] => .ok []
  | first :: rest =>
      if Text.isBlank first then
        readTokens rest
      else
        match _read : readWord first rest with
        | .error error => .error error
        | .ok (token, after) =>
            match readTokens after with
            | .error error => .error error
            | .ok tokens => .ok (token :: tokens)
termination_by characters => characters.length
decreasing_by
  · simp
  · have := length_readWord_le _read
    simp
    omega

end WidgetMarkup.Expression
