import WidgetMarkup.Markup.Token.Reading
import WidgetMarkup.Markup.Node
import WidgetMarkup.Proofs.Text.Lines

namespace WidgetMarkup.Markup

/-!
# Markup in canonical form

The one way in which a forest is written out: every tag is opened and closed, every value is
quoted, text stands before the tags inside, and what could be taken for markup is a reference.
Forests whose names are names and whose texts are trimmed lines can be written like this.
-/

/-- How a character of text is written. -/
def escapeTextCharacter : Char → List Char
  | '&' => ['&', 'a', 'm', 'p', ';']
  | '<' => ['&', 'l', 't', ';']
  | character => [character]

/-- How a character of a quoted value is written. -/
def escapeValueCharacter : Char → List Char
  | '&' => ['&', 'a', 'm', 'p', ';']
  | '\x22' => ['&', 'q', 'u', 'o', 't', ';']
  | character => [character]

/-- Text as it is written between tags. -/
def escapeText (text : String) : List Char :=
  text.toList.flatMap escapeTextCharacter

/-- A value as it is written between quotes. -/
def escapeValue (value : String) : List Char :=
  value.toList.flatMap escapeValueCharacter

/-- An attribute as it is written in a tag, with the blank in front of it. -/
def Attribute.render (entry : Attribute) : List Char :=
  ' ' :: (entry.name.toList ++ '=' :: '\x22' :: (escapeValue entry.value ++ ['\x22']))

/-- The name of a tag with the marker in front of it if it is a macro. -/
def renderTagName (marker : Char) (name : String) (isMacro : Bool) : List Char :=
  if isMacro then marker :: name.toList else name.toList

/-- An opening tag without its bracket. -/
def renderOpening
    (marker : Char)
    (name : String)
    (isMacro : Bool)
    (attributes : List Attribute) :
    List Char :=
  renderTagName marker name isMacro ++ (attributes.flatMap Attribute.render ++ ['>'])

/-- A closing tag without its bracket and slash. -/
def renderClosing (marker : Char) (name : String) (isMacro : Bool) : List Char :=
  renderTagName marker name isMacro ++ ['>']

namespace Node

mutual

/-- A node as it is written. -/
def render (marker : Char) : Node → List Char
  | ⟨name, isMacro, attributes, children, text, _⟩ =>
      '<' :: (renderOpening marker name isMacro attributes ++
        (escapeText text ++
          (renderAll marker children ++ '<' :: '/' :: renderClosing marker name isMacro)))

/-- Nodes as they are written one after another. -/
def renderAll (marker : Char) : List Node → List Char
  | [] => []
  | node :: rest => node.render marker ++ renderAll marker rest

end

mutual

/-- A node without the places in the source. -/
def unplaced : Node → Node
  | ⟨name, isMacro, attributes, children, text, _⟩ =>
      ⟨name, isMacro, attributes, unplacedAll children, text, ⟨0, 0⟩⟩

/-- Nodes without the places in the source. -/
def unplacedAll : List Node → List Node
  | [] => []
  | node :: rest => node.unplaced :: unplacedAll rest

end

end Node

/-- A forest in canonical form, with the given character as macro marker. -/
def renderForest (marker : Char) (forest : List Node) : String :=
  String.ofList (Node.renderAll marker forest)

/-- Whether a text is a name made of characters that satisfy a test. -/
structure IsNameOf (test : Char → Bool) (name : String) : Prop where
  notEmpty :
    name.toList ≠ []
  characters :
    ∀ character ∈ name.toList, test character = true

/-- Whether a text is made of trimmed lines with a line feed between each two. -/
def IsTrimmedText (text : String) : Prop :=
  ∃ lines : List String,
    (∀ line ∈ lines, Text.IsTrimmedLine line) ∧ text = Text.join "\n" lines

/-- The forests whose names are names and whose texts are trimmed lines, at every depth. -/
inductive IsWellFormed : List Node → Prop where
  | nothing :
      IsWellFormed []
  | node
      {name : String}
      {isMacro : Bool}
      {attributes : List Attribute}
      {children rest : List Node}
      {text : String}
      {position : Position} :
      IsNameOf isNameCharacter name →
      (∀ entry ∈ attributes, IsNameOf isAttributeNameCharacter entry.name) →
      IsTrimmedText text →
      IsWellFormed children →
      IsWellFormed rest →
      IsWellFormed (⟨name, isMacro, attributes, children, text, position⟩ :: rest)

/-- The characters that can mark macros. -/
structure IsMarker (marker : Char) : Prop where
  notInNames :
    isNameCharacter marker = false
  notSlash :
    marker ≠ '/'
  notExclamation :
    marker ≠ '!'
  notQuestion :
    marker ≠ '?'

/-- A reference is decoded to its character. -/
theorem decodeCharacters_reference
    {rest after : List Char}
    {decoded : Char}
    (found : readReference? rest = some (decoded, after)) :
    decodeCharacters ('&' :: rest) = decoded :: decodeCharacters after := by
  rw [decodeCharacters, if_pos (by decide)]
  split
  · rename_i decoded' after' found'
    obtain ⟨rfl, rfl⟩ : decoded' = decoded ∧ after' = after := by
      simpa using found'.symm.trans found
    rfl
  · rename_i notFound
    simp [found] at notFound

/-- A character that opens no reference is decoded to itself. -/
theorem decodeCharacters_plain
    {character : Char}
    (plain : character ≠ '&')
    (rest : List Char) :
    decodeCharacters (character :: rest) = character :: decodeCharacters rest := by
  rw [decodeCharacters, if_neg (by simpa [isReferenceOpening] using plain)]

/-- Decoding undoes an escaping that it undoes for every character. -/
theorem decodeCharacters_flatMap
    {escape : Char → List Char}
    (undone :
      ∀ character rest,
        decodeCharacters (escape character ++ rest) = character :: decodeCharacters rest)
    (characters : List Char) :
    decodeCharacters (characters.flatMap escape) = characters := by
  induction characters with
  | nil =>
      simp [decodeCharacters]
  | cons character rest inductionHypothesis =>
      rw [List.flatMap_cons, undone, inductionHypothesis]

/-- The reference for an ampersand. -/
private theorem readReference?_ampersand
    (rest : List Char) :
    readReference? ('a' :: 'm' :: 'p' :: ';' :: rest) = some ('&', rest) :=
  rfl

/-- Decoding undoes the escaping of text. -/
theorem decodeCharacters_escapeText
    (text : String) :
    decodeCharacters (escapeText text) = text.toList := by
  refine decodeCharacters_flatMap (fun character rest => ?_) text.toList
  unfold escapeTextCharacter
  split
  · exact decodeCharacters_reference (readReference?_ampersand rest)
  · exact decodeCharacters_reference rfl
  · rename_i notAmpersand _
    exact decodeCharacters_plain notAmpersand rest

theorem decodeCharacters_escapeValue
    (value : String) :
    decodeCharacters (escapeValue value) = value.toList := by
  refine decodeCharacters_flatMap (fun character rest => ?_) value.toList
  unfold escapeValueCharacter
  split
  · exact decodeCharacters_reference (readReference?_ampersand rest)
  · exact decodeCharacters_reference rfl
  · rename_i notAmpersand _
    exact decodeCharacters_plain notAmpersand rest

/-- Escaped text opens no tag. -/
theorem isTextCharacter_of_mem_escapeText
    {text : String}
    {character : Char}
    (member : character ∈ escapeText text) :
    isTextCharacter character = true := by
  obtain ⟨original, -, escaped⟩ := List.mem_flatMap.mp member
  unfold escapeTextCharacter at escaped
  split at escaped
  · exact List.all_eq_true.mp (by decide) character escaped
  · exact List.all_eq_true.mp (by decide) character escaped
  · rename_i _ notBracket
    rw [List.mem_singleton.mp escaped]
    simpa [isTextCharacter] using notBracket

/-- An escaped value holds no quote mark. -/
theorem ne_quote_of_mem_escapeValue
    {value : String}
    {character : Char}
    (member : character ∈ escapeValue value) :
    (character != '\x22') = true := by
  obtain ⟨original, -, escaped⟩ := List.mem_flatMap.mp member
  unfold escapeValueCharacter at escaped
  split at escaped
  · exact List.all_eq_true (p := (· != '\x22')) |>.mp (by decide) character escaped
  · exact List.all_eq_true (p := (· != '\x22')) |>.mp (by decide) character escaped
  · rename_i _ notQuote
    rw [List.mem_singleton.mp escaped]
    simpa using notQuote

/-- Only the empty text is escaped to nothing. -/
theorem escapeText_eq_nil_iff
    (text : String) :
    escapeText text = [] ↔ text = "" := by
  constructor
  · intro nothing
    have decoded := decodeCharacters_escapeText text
    rw [nothing] at decoded
    simpa [decodeCharacters] using decoded.symm
  · rintro rfl
    rfl

end WidgetMarkup.Markup
