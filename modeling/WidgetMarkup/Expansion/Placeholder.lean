import WidgetMarkup.Problem

namespace WidgetMarkup

/-!
# Placeholders

A value is a sequence of literal text and placeholders in braces. The first character inside the
braces says what a placeholder names: a translation, an action, an expression or, without any of
these marks, a variable. A backslash before an opening brace makes the brace literal; any other
backslash stands for itself.
-/

/-- A piece of a value. -/
inductive Segment where
  | literal (text : String)
  | variable (name : String)
  | translation (key : String)
  | action (reference : String)
  | expression (source : String)
deriving Repr, DecidableEq

namespace Segment

/-- Whether a value has to be split at all. -/
def isNeeded (raw : List Char) : Bool :=
  raw.contains Text.openBrace

/-- The placeholder that is written with the given characters between its braces. -/
def ofInside? (inside : List Char) : Option Segment :=
  match Text.trimCharacters inside with
  | [] => none
  | '@' :: key => some (.translation (String.ofList (Text.trimCharacters key)))
  | '$' :: reference => some (.action (String.ofList (Text.trimCharacters reference)))
  | '=' :: source => some (.expression (String.ofList (Text.trimCharacters source)))
  | name => some (.variable (String.ofList name))

/-- A literal before other pieces, unless it is empty. -/
def afterLiteral (reversed : List Char) (segments : List Segment) : List Segment :=
  if reversed.isEmpty then segments else .literal (String.ofList reversed.reverse) :: segments

/-- The problem with a placeholder, given its source. -/
def failure (source : List Char) (reason : InterpolationFailure) : Problem :=
  .interpolation (String.ofList source) reason

/-- The pieces of a value, given the literal before it in reverse. -/
def readFrom (reversed : List Char) : List Char → Except Problem (List Segment)
  | [] => .ok (afterLiteral reversed [])
  | first :: rest =>
      if first = '\\' ∧ rest.head? = some Text.openBrace then
        readFrom (Text.openBrace :: reversed) rest.tail
      else if first = Text.openBrace then
        let inside := rest.takeWhile (· != Text.closeBrace)
        match _found : rest.dropWhile (· != Text.closeBrace) with
        | [] => .error (failure (first :: rest) .unterminated)
        | close :: after =>
            match ofInside? inside with
            | none => .error (failure (first :: inside ++ [close]) .emptyPlaceholder)
            | some segment =>
                match readFrom [] after with
                | .ok segments => .ok (afterLiteral reversed (segment :: segments))
                | .error problem => .error problem
      else
        readFrom (first :: reversed) rest
termination_by characters => characters.length
decreasing_by
  · simp only [List.length_tail, List.length_cons]
    omega
  · have bound := (List.dropWhile_sublist (· != Text.closeBrace) (l := rest)).length_le
    simp [_found] at bound
    simp
    omega
  · simp

/-- The pieces of a value. -/
def ofValue (raw : String) : Except Problem (List Segment) :=
  readFrom [] raw.toList

end Segment

end WidgetMarkup
