import WidgetMarkup.Markup.Position
import WidgetMarkup.Text.Quoted

namespace WidgetMarkup.Markup

/-!
# Faults in markup

The causes for which a text is no markup, each with its message, and the place at which a cause
was noticed.
-/

/-- Why a text is no markup. -/
inductive FaultCause where
  /-- A comment or processing instruction has no end. -/
  | unterminatedComment
  | unterminatedInstruction
  /-- No name follows the opening bracket. -/
  | missingTagName
  /-- A closing tag goes on after its name. -/
  | closingTagNotEnded (name : String) (found : Option Char)
  /-- The text ends inside a tag. -/
  | unterminatedTag (name : String)
  /-- A slash inside a tag does not end it. -/
  | straySlash (name : String)
  /-- A character inside a tag belongs to no attribute. -/
  | unexpectedInTag (found : Option Char)
  /-- A quoted value has no closing quote. -/
  | unterminatedValue (name : String)
  /-- Nothing follows the equals sign. -/
  | missingValue (name : String)
  /-- Text stands outside every tag. -/
  | textOutsideTags (text : String)
  /-- A closing tag closes nothing. -/
  | nothingToClose (name : String)
  /-- A closing tag does not fit the innermost open tag. -/
  | mismatchedClose (closing opened : String) (openedAt : Position)
  /-- A tag is still open at the end. -/
  | neverClosed (name : String)
deriving Repr, DecidableEq

/-- A cause and the place where it was noticed. -/
structure Fault where
  cause : FaultCause
  position : Position
deriving Repr, DecidableEq

namespace FaultCause

/-- A character that may be missing, as messages show it. -/
def showFound : Option Char → String
  | none => "None"
  | some character => "Some(" ++ Text.quoteCharacter character ++ ")"

/-- The message of a cause, without its place. -/
def message : FaultCause → String
  | unterminatedComment => "unterminated comment"
  | unterminatedInstruction => "unterminated processing instruction"
  | missingTagName => "expected a tag name"
  | closingTagNotEnded name found =>
      "expected '>' to close </" ++ name ++ ", got " ++ showFound found
  | unterminatedTag name => "unterminated tag <" ++ name
  | straySlash name => "expected '>' after '/' in <" ++ name
  | unexpectedInTag found => "unexpected character " ++ showFound found ++ " in tag"
  | unterminatedValue name => "unterminated value for attribute " ++ Text.quote name
  | missingValue name => "missing value for attribute " ++ Text.quote name
  | textOutsideTags text => "text outside of any tag: " ++ Text.quote text
  | nothingToClose name => "closing tag </" ++ name ++ "> without a matching opening tag"
  | mismatchedClose closing opened openedAt =>
      "closing tag </" ++ closing ++ "> does not match <" ++ opened ++ "> opened at " ++
        toString openedAt.line ++ ":" ++ toString openedAt.column
  | neverClosed name => "tag <" ++ name ++ "> is never closed"

end FaultCause

namespace Fault

/-- The message of a fault with its place in front. -/
def message (fault : Fault) : String :=
  "lml syntax error at " ++ toString fault.position.line ++ ":" ++
    toString fault.position.column ++ ": " ++ fault.cause.message

end Fault

end WidgetMarkup.Markup
