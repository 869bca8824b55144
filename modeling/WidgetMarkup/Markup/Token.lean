import WidgetMarkup.Markup.Position

namespace WidgetMarkup.Markup

/-!
# Tokens

The pieces that markup is made of, before tags are matched with each other.
-/

/-- A name and its value, as written in a tag. -/
structure Attribute where
  name : String
  value : String
deriving Repr, DecidableEq, Inhabited

/-- A piece of markup. -/
inductive Token where
  /-- An opening tag; a self closing one opens and closes at once. -/
  | opening (name : String) (isMacro : Bool) (attributes : List Attribute) (selfClosing : Bool)
  /-- A closing tag. -/
  | closing (name : String) (isMacro : Bool)
  /-- Text between tags, its references decoded. -/
  | text (content : String)
  /-- The end of the source. -/
  | endOfSource
deriving Repr, DecidableEq

/-- A token and the place where reading it began. -/
structure PlacedToken where
  token : Token
  position : Position
deriving Repr, DecidableEq

end WidgetMarkup.Markup
