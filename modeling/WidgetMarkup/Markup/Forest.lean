import WidgetMarkup.Markup.Node
import WidgetMarkup.Markup.Token.Reading

namespace WidgetMarkup.Markup

/-!
# From tokens to trees

Opening and closing tags are matched like brackets: a closing tag belongs to the innermost tag
that is still open, and must have its name, up to case, and its macro marker.
-/

/-- A tag that is still open, with what it holds so far, the newest first. -/
structure OpenTag where
  name : String
  isMacro : Bool
  attributes : List Attribute
  position : Position
  children : List Node := []
  lines : List String := []
deriving Repr

namespace OpenTag

/-- The node that an open tag becomes when it is closed. -/
def toNode (tag : OpenTag) : Node :=
  { name := tag.name
    isMacro := tag.isMacro
    attributes := tag.attributes
    children := tag.children.reverse
    text := Text.join "\n" tag.lines.reverse
    position := tag.position }

/-- Whether a closing tag with this name and marker closes the open tag. -/
def isClosedBy (tag : OpenTag) (name : String) (isMacro : Bool) : Bool :=
  Text.sameName tag.name name && tag.isMacro == isMacro

end OpenTag

/-- The tags that are open, the innermost first, and the finished roots, the newest first. -/
structure Nesting where
  openTags : List OpenTag := []
  roots : List Node := []
deriving Repr

namespace Nesting

/-- Puts a finished node into the innermost open tag, or among the roots. -/
def place (nesting : Nesting) (node : Node) : Nesting :=
  match nesting.openTags with
  | [] => { nesting with roots := node :: nesting.roots }
  | parent :: outer =>
      { nesting with openTags := { parent with children := node :: parent.children } :: outer }

/-- Takes in text: lines for the innermost open tag, and nothing but blanks outside. -/
def takeText (nesting : Nesting) (content : String) (position : Position) : Except Fault Nesting :=
  match nesting.openTags with
  | [] =>
      if Text.isBlankText content then
        .ok nesting
      else
        .error ⟨.textOutsideTags (Text.trim content), position⟩
  | parent :: outer =>
      let lines := (Text.trimmedLines content).reverse ++ parent.lines
      .ok { nesting with openTags := { parent with lines := lines } :: outer }

/-- Closes the innermost open tag. -/
def close
    (nesting : Nesting)
    (name : String)
    (isMacro : Bool)
    (position : Position) :
    Except Fault Nesting :=
  match nesting.openTags with
  | [] => .error ⟨.nothingToClose name, position⟩
  | tag :: outer =>
      if tag.isClosedBy name isMacro then
        .ok ({ nesting with openTags := outer }.place tag.toNode)
      else
        .error ⟨.mismatchedClose name tag.name tag.position, position⟩

/-- Takes in one token. -/
def take (nesting : Nesting) (placed : PlacedToken) : Except Fault Nesting :=
  match placed.token with
  | .endOfSource => .ok nesting
  | .text content => nesting.takeText content placed.position
  | .closing name isMacro => nesting.close name isMacro placed.position
  | .opening name isMacro attributes selfClosing =>
      let tag : OpenTag := { name, isMacro, attributes, position := placed.position }
      if selfClosing then
        .ok (nesting.place tag.toNode)
      else
        .ok { nesting with openTags := tag :: nesting.openTags }

/-- The roots, if no tag is open any more. -/
def finish (nesting : Nesting) : Except Fault (List Node) :=
  match nesting.openTags with
  | [] => .ok nesting.roots.reverse
  | tag :: _ => .error ⟨.neverClosed tag.name, tag.position⟩

/-- Takes in tokens up to the end of the source. -/
def takeAll (nesting : Nesting) : List PlacedToken → Except Fault (List Node)
  | [] => nesting.finish
  | placed :: rest =>
      if placed.token = .endOfSource then
        nesting.finish
      else
        match nesting.take placed with
        | .ok next => next.takeAll rest
        | .error fault => .error fault

end Nesting

/-- The trees that a list of tokens spells. -/
def forestOfTokens (tokens : List PlacedToken) : Except Fault (List Node) :=
  ({} : Nesting).takeAll tokens

/-- The trees that a source spells, with the given character as macro marker. -/
def forestOfSource (marker : Char) (source : String) : Except Fault (List Node) :=
  match tokensOfSource marker source with
  | .ok tokens => forestOfTokens tokens
  | .error fault => .error fault

end WidgetMarkup.Markup
