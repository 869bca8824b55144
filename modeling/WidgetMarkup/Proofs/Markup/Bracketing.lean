import WidgetMarkup.Markup.Forest

namespace WidgetMarkup.Markup

/-!
# Tokens as brackets

What a list of tokens says when opening and closing tags are read as brackets, without any tree.
Every token stands inside the tags that are open around it; opening tags are numbered in their
order, so that equal tags can be told apart. A list is balanced if every closing tag fits the
innermost open tag, no tag is left open and text outside of all tags is blank.

The outline of a forest lists its nodes in preorder, each with the numbers of the nodes around it
and its text. The outline of tokens lists the same for opening tags, from the brackets alone.
-/

/-- What an opening tag says, apart from whether a slash ends it. -/
structure Opening where
  name : String
  isMacro : Bool
  attributes : List Attribute
  position : Position
deriving Repr, DecidableEq

/-- An opening tag and the number of those before it. -/
structure NumberedOpening where
  number : Nat
  opening : Opening
deriving Repr, DecidableEq

namespace PlacedToken

/-- The opening tag that a token is, if it is one. -/
def opening? (placed : PlacedToken) : Option Opening :=
  match placed.token with
  | .opening name isMacro attributes _ => some ⟨name, isMacro, attributes, placed.position⟩
  | _ => none

/-- The number of opening tags up to a token, given those before it. -/
def countThrough (placed : PlacedToken) (count : Nat) : Nat :=
  match placed.token with
  | .opening .. => count + 1
  | _ => count

/--
The tags that are open after a token, the innermost first. Names have no part in this: a closing
tag ends the innermost one, whatever it is called.
-/
def enclosingAfter
    (placed : PlacedToken)
    (count : Nat)
    (enclosing : List NumberedOpening) :
    List NumberedOpening :=
  match placed.token with
  | .opening name isMacro attributes false =>
      ⟨count, name, isMacro, attributes, placed.position⟩ :: enclosing
  | .closing .. => enclosing.tail
  | _ => enclosing

end PlacedToken

/-- A token, the number of opening tags before it and the tags that are open around it. -/
structure SituatedToken where
  placed : PlacedToken
  count : Nat
  /-- The innermost first. -/
  enclosing : List NumberedOpening
deriving Repr

/-- The tokens of a list, each where it stands. -/
def situate (count : Nat) (enclosing : List NumberedOpening) :
    List PlacedToken → List SituatedToken
  | [] => []
  | placed :: rest =>
      ⟨placed, count, enclosing⟩ ::
        situate (placed.countThrough count) (placed.enclosingAfter count enclosing) rest

/-- The number of opening tags up to the end of a list. -/
def countThroughAll (count : Nat) : List PlacedToken → Nat
  | [] => count
  | placed :: rest => countThroughAll (placed.countThrough count) rest

/-- The tags that are open after a list of tokens. -/
def enclosingAfterAll (count : Nat) (enclosing : List NumberedOpening) :
    List PlacedToken → List NumberedOpening
  | [] => enclosing
  | placed :: rest =>
      enclosingAfterAll (placed.countThrough count) (placed.enclosingAfter count enclosing) rest

namespace SituatedToken

/--
Whether a token may stand where it does: a closing tag needs an open tag of its name, up to case,
and with its marker right around it, and text outside of all tags has to be blank.
-/
def Fits (situated : SituatedToken) : Prop :=
  match situated.placed.token with
  | .closing name isMacro =>
      ∃ innermost outer,
        situated.enclosing = innermost :: outer ∧
          innermost.opening.isMacro = isMacro ∧
          Text.sameName innermost.opening.name name = true
  | .text content =>
      situated.enclosing = [] → Text.isBlankText content = true
  | _ => True

/-- The trimmed lines of a text that stands directly inside the tag of a number. -/
def linesInside (number : Nat) (situated : SituatedToken) : List String :=
  match situated.placed.token, situated.enclosing with
  | .text content, innermost :: _ =>
      if innermost.number = number then Text.trimmedLines content else []
  | _, _ => []

end SituatedToken

/-- The tokens of a source match each other like brackets. -/
structure IsBalanced (tokens : List PlacedToken) : Prop where
  tokensFit :
    ∀ situated ∈ situate 0 [] tokens, situated.Fits
  noneLeftOpen :
    enclosingAfterAll 0 [] tokens = []

/-- A tag in its place, with the text directly inside it. -/
structure OutlineEntry where
  number : Nat
  opening : Opening
  /-- The numbers of the tags around it, the innermost first. -/
  enclosing : List Nat
  text : String
deriving Repr, DecidableEq

/-- The lines directly inside the tag of a number, in the order of the source. -/
def linesInsideAll (number : Nat) (source : List SituatedToken) : List String :=
  source.flatMap fun situated => situated.linesInside number

/-- The entry of an opening tag, its text being collected from all tokens of the source. -/
def SituatedToken.entry? (source : List SituatedToken) (situated : SituatedToken) :
    Option OutlineEntry :=
  situated.placed.opening?.map fun opening =>
    { number := situated.count
      opening
      enclosing := situated.enclosing.map NumberedOpening.number
      text := Text.join "\n" (linesInsideAll situated.count source) }

/-- The outline of tokens. -/
def outlineOfTokens (tokens : List PlacedToken) : List OutlineEntry :=
  (situate 0 [] tokens).filterMap (SituatedToken.entry? (situate 0 [] tokens))

namespace Node

mutual

/-- The outline of a tree, given the number of nodes before it and the numbers around it. -/
def outline (number : Nat) (enclosing : List Nat) : Node → List OutlineEntry
  | ⟨name, isMacro, attributes, children, text, position⟩ =>
      ⟨number, ⟨name, isMacro, attributes, position⟩, enclosing, text⟩ ::
        outlineAll (number + 1) (number :: enclosing) children

/-- The outline of a forest. -/
def outlineAll (number : Nat) (enclosing : List Nat) : List Node → List OutlineEntry
  | [] => []
  | node :: rest =>
      node.outline number enclosing ++ outlineAll (number + node.size) enclosing rest

end

end Node

/-- What is situated is what was given, in its order. -/
theorem situate_map_placed
    (count : Nat)
    (enclosing : List NumberedOpening)
    (tokens : List PlacedToken) :
    (situate count enclosing tokens).map SituatedToken.placed = tokens := by
  induction tokens generalizing count enclosing with
  | nil =>
      rfl
  | cons placed rest inductionHypothesis =>
      simp [situate, inductionHypothesis]

theorem situate_append
    (count : Nat)
    (enclosing : List NumberedOpening)
    (first second : List PlacedToken) :
    situate count enclosing (first ++ second) =
      situate count enclosing first ++
        situate (countThroughAll count first) (enclosingAfterAll count enclosing first) second := by
  induction first generalizing count enclosing with
  | nil =>
      rfl
  | cons placed rest inductionHypothesis =>
      simp [situate, countThroughAll, enclosingAfterAll, inductionHypothesis]

theorem countThroughAll_append
    (count : Nat)
    (first second : List PlacedToken) :
    countThroughAll count (first ++ second) =
      countThroughAll (countThroughAll count first) second := by
  induction first generalizing count with
  | nil =>
      rfl
  | cons placed rest inductionHypothesis =>
      simp [countThroughAll, inductionHypothesis]

theorem enclosingAfterAll_append
    (count : Nat)
    (enclosing : List NumberedOpening)
    (first second : List PlacedToken) :
    enclosingAfterAll count enclosing (first ++ second) =
      enclosingAfterAll (countThroughAll count first)
        (enclosingAfterAll count enclosing first) second := by
  induction first generalizing count enclosing with
  | nil =>
      rfl
  | cons placed rest inductionHypothesis =>
      simp [countThroughAll, enclosingAfterAll, inductionHypothesis]

namespace SituatedToken

@[simp] theorem linesInside_opening
    (number : Nat)
    (opening : Opening)
    (selfClosing : Bool)
    (count : Nat)
    (enclosing : List NumberedOpening) :
    linesInside number
        ⟨⟨.opening opening.name opening.isMacro opening.attributes selfClosing, opening.position⟩,
          count, enclosing⟩ =
      [] :=
  rfl

@[simp] theorem linesInside_closing
    (number : Nat)
    (name : String)
    (isMacro : Bool)
    (position : Position)
    (count : Nat)
    (enclosing : List NumberedOpening) :
    linesInside number ⟨⟨.closing name isMacro, position⟩, count, enclosing⟩ = [] :=
  rfl

/-- A text has its lines in the innermost tag around it. -/
theorem linesInside_text
    (number : Nat)
    (content : String)
    (position : Position)
    (count : Nat)
    (enclosing : List NumberedOpening) :
    linesInside number ⟨⟨.text content, position⟩, count, enclosing⟩ =
      if enclosing.head?.map NumberedOpening.number = some number then
        Text.trimmedLines content
      else
        [] := by
  cases enclosing with
  | nil =>
      rfl
  | cons innermost outer =>
      simp [linesInside]

@[simp] theorem entry?_opening
    (source : List SituatedToken)
    (opening : Opening)
    (selfClosing : Bool)
    (count : Nat)
    (enclosing : List NumberedOpening) :
    entry? source
        ⟨⟨.opening opening.name opening.isMacro opening.attributes selfClosing, opening.position⟩,
          count, enclosing⟩ =
      some
        { number := count
          opening
          enclosing := enclosing.map NumberedOpening.number
          text := Text.join "\n" (linesInsideAll count source) } :=
  rfl

@[simp] theorem entry?_closing
    (source : List SituatedToken)
    (name : String)
    (isMacro : Bool)
    (position : Position)
    (count : Nat)
    (enclosing : List NumberedOpening) :
    entry? source ⟨⟨.closing name isMacro, position⟩, count, enclosing⟩ = none :=
  rfl

end SituatedToken

/-- The lines of one token come before those of the tokens after it. -/
@[simp] theorem linesInsideAll_cons
    (number : Nat)
    (situated : SituatedToken)
    (rest : List SituatedToken) :
    linesInsideAll number (situated :: rest) =
      situated.linesInside number ++ linesInsideAll number rest :=
  rfl

@[simp] theorem linesInsideAll_append
    (number : Nat)
    (first second : List SituatedToken) :
    linesInsideAll number (first ++ second) =
      linesInsideAll number first ++ linesInsideAll number second := by
  simp [linesInsideAll]

/-- The outline of tokens lists their opening tags in order, none lost and none twice. -/
theorem outlineOfTokens_map_opening
    (tokens : List PlacedToken) :
    (outlineOfTokens tokens).map OutlineEntry.opening = tokens.filterMap PlacedToken.opening? := by
  have entryOpening (source : List SituatedToken) :
      (fun situated : SituatedToken => (situated.entry? source).map OutlineEntry.opening) =
        PlacedToken.opening? ∘ SituatedToken.placed := by
    funext situated
    simp [SituatedToken.entry?, Function.comp_def]
  rw [outlineOfTokens, List.map_filterMap, entryOpening, ← List.filterMap_map,
    situate_map_placed]

end WidgetMarkup.Markup
