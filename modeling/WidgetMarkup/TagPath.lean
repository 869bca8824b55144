namespace WidgetMarkup

/-!
# Paths to tags

Where in a document something went wrong: the names of the tags from the root down, each with its
id where it has one.
-/

/-- The tags from the root down to one. -/
structure TagPath where
  segments : List String := []
deriving Repr, DecidableEq, Inhabited

namespace TagPath

/-- The path of the document itself. -/
def root : TagPath := {}

/-- The path of a tag inside. -/
def child (path : TagPath) (name : String) (id : Option String) : TagPath :=
  match id with
  | some id => ⟨path.segments ++ [name ++ "#" ++ id]⟩
  | none => ⟨path.segments ++ [name]⟩

/-- Whether a path is that of the document itself. -/
def isRoot (path : TagPath) : Bool :=
  path.segments.isEmpty

/-- The innermost segment. -/
def leaf? (path : TagPath) : Option String :=
  path.segments.getLast?

/-- The text of a path. -/
def render (path : TagPath) : String :=
  "root" ++ String.join (path.segments.map fun segment => "/" ++ segment)

end TagPath

end WidgetMarkup
