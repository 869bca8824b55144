import WidgetMarkup.Markup.Cursor
import WidgetMarkup.Markup.Fault
import WidgetMarkup.Markup.Reference
import WidgetMarkup.Markup.Token

namespace WidgetMarkup.Markup

/-!
# Reading tokens

From a source text to its tokens. Comments and processing instructions are passed over; the place
of a token is the one where reading it began, in front of any of these. Every token but the last
takes at least one character, so reading ends.
-/

/-- The characters that names of tags are made of. -/
def isNameCharacter (character : Char) : Bool :=
  Text.isAlphanumeric character || character == '_' || character == '-' || character == '.'

/-- The characters that names of attributes are made of. -/
def isAttributeNameCharacter (character : Char) : Bool :=
  !Text.isBlank character && character != '=' && character != '>' && character != '/' &&
    character != '\x22' && character != '\x27' && character != '<'

/-- Whether a character opens and closes a quoted value. -/
def isQuoteMark (character : Char) : Bool :=
  character == '\x22' || character == '\x27'

/-- The number of characters up to the end of the first occurrence of an ending. -/
def countPast? (ending : List Char) : List Char → Option Nat
  | [] => none
  | character :: rest =>
      if ending.isPrefixOf (character :: rest) then
        some ending.length
      else
        (countPast? ending rest).map (· + 1)

/-- A counted ending lies ahead and is not empty. -/
theorem countPast?_pos
    {ending characters : List Char}
    {count : Nat}
    (nonempty : ending ≠ [])
    (found : countPast? ending characters = some count) :
    0 < count ∧ characters ≠ [] := by
  cases characters with
  | nil =>
      simp [countPast?] at found
  | cons character rest =>
      refine ⟨?_, by simp⟩
      unfold countPast? at found
      split at found
      · cases found
        exact List.length_pos_iff.2 nonempty
      · simp only [Option.map_eq_some_iff] at found
        obtain ⟨_, _, equal⟩ := found
        omega

/-- The delimiters of comments. -/
def commentOpening : List Char := ['<', '!', '-', '-']
def commentEnding : List Char := ['-', '-', '>']

/-- The delimiters of processing instructions. -/
def instructionOpening : List Char := ['<', '?']
def instructionEnding : List Char := ['?', '>']

/-- The cursor after all comments and processing instructions that follow each other. -/
def skipIgnored (cursor : Cursor) : Except Fault Cursor :=
  if cursor.startsWith commentOpening then
    match _found : countPast? commentEnding cursor.rest with
    | some count => skipIgnored (cursor.skip count)
    | none => .error ⟨.unterminatedComment, cursor.position⟩
  else if cursor.startsWith instructionOpening then
    match _found : countPast? instructionEnding cursor.rest with
    | some count => skipIgnored (cursor.skip count)
    | none => .error ⟨.unterminatedInstruction, cursor.position⟩
  else
    .ok cursor
termination_by cursor.rest.length
decreasing_by
  · have := countPast?_pos (by decide) _found
    exact cursor.length_skip_lt this.1 this.2
  · have := countPast?_pos (by decide) _found
    exact cursor.length_skip_lt this.1 this.2

/-- The name of a tag, and whether the macro marker stands in front of it. -/
structure TagName where
  name : String
  isMacro : Bool
deriving Repr, DecidableEq

/-- The cursor after the macro marker, if the marker is next. -/
def skipMarker (marker : Char) (cursor : Cursor) : Cursor :=
  if cursor.next? = some marker then cursor.skip 1 else cursor

/-- Skipping the marker leaves no more than there was. -/
theorem length_skipMarker_le
    (marker : Char)
    (cursor : Cursor) :
    (skipMarker marker cursor).rest.length ≤ cursor.rest.length := by
  unfold skipMarker
  split
  · exact cursor.length_skip_le 1
  · exact Nat.le_refl _

/-- Reads the optional macro marker and the name of a tag. -/
def readTagName (marker : Char) (cursor : Cursor) : Except Fault (TagName × Cursor) :=
  let beginning := skipMarker marker cursor
  let name := beginning.run isNameCharacter
  if name.isEmpty then
    .error ⟨.missingTagName, beginning.position⟩
  else
    .ok (⟨String.ofList name, cursor.next? == some marker⟩, beginning.skipRun isNameCharacter)

/-- Reads a closing tag, the cursor being after its slash. -/
def readClosingTag (marker : Char) (cursor : Cursor) : Except Fault (Token × Cursor) := do
  let (tag, afterName) ← readTagName marker cursor
  let ending := afterName.skipBlanks
  if ending.next? = some '>' then
    return (.closing tag.name tag.isMacro, ending.skip 1)
  else
    throw ⟨.closingTagNotEnded tag.name ending.next?, (ending.skip 1).position⟩

/-- Whether the source goes on with the end of a tag. -/
def atTagEnd (characters : List Char) : Bool :=
  ['>'].isPrefixOf characters || ['/', '>'].isPrefixOf characters

/-- The characters of a value without quotes: up to a blank or the end of the tag. -/
def unquotedValue : List Char → List Char
  | [] => []
  | character :: rest =>
      if Text.isBlank character || atTagEnd (character :: rest) then
        []
      else
        character :: unquotedValue rest

/-- Reads the value of an attribute, the cursor being where its value should begin. -/
def readValue (name : String) (cursor : Cursor) : Except Fault (String × Cursor) :=
  match cursor.rest with
  | [] => .error ⟨.missingValue name, cursor.position⟩
  | character :: _ =>
      if isQuoteMark character then
        let inside := cursor.skip 1
        let value := inside.run (· != character)
        let closing := inside.skipRun (· != character)
        if closing.rest.isEmpty then
          .error ⟨.unterminatedValue name, cursor.position⟩
        else
          .ok (String.ofList (decodeCharacters value), closing.skip 1)
      else
        let value := unquotedValue cursor.rest
        if value.isEmpty then
          .error ⟨.missingValue name, cursor.position⟩
        else
          .ok (String.ofList (decodeCharacters value), cursor.skip value.length)

/-- Reads an attribute; one without a value is true. -/
def readAttribute (cursor : Cursor) : Except Fault (Attribute × Cursor) :=
  let name := cursor.run isAttributeNameCharacter
  if name.isEmpty then
    .error ⟨.unexpectedInTag cursor.next?, cursor.position⟩
  else
    let name := String.ofList name
    let afterName := (cursor.skipRun isAttributeNameCharacter).skipBlanks
    if afterName.next? = some '=' then
      match readValue name (afterName.skip 1).skipBlanks with
      | .ok (value, after) => .ok (⟨name, value⟩, after)
      | .error fault => .error fault
    else
      .ok (⟨name, "true"⟩, afterName)

/-- Reading a value leaves no more than there was. -/
theorem length_readValue_le
    {name value : String}
    {cursor after : Cursor}
    (read : readValue name cursor = .ok (value, after)) :
    after.rest.length ≤ cursor.rest.length := by
  unfold readValue at read
  split at read
  · cases read
  · split at read
    · simp only at read
      split at read
      · cases read
      · cases read
        exact Nat.le_trans (Cursor.length_skip_le _ _)
          (Nat.le_trans (Cursor.length_skipRun_le _ _) (cursor.length_skip_le 1))
    · simp only at read
      split at read
      · cases read
      · cases read
        exact cursor.length_skip_le _

/-- Reading an attribute takes at least one character. -/
theorem length_readAttribute_lt
    {entry : Attribute}
    {cursor after : Cursor}
    (read : readAttribute cursor = .ok (entry, after)) :
    after.rest.length < cursor.rest.length := by
  unfold readAttribute at read
  simp only at read
  split at read
  · cases read
  · rename_i nonempty
    have named := cursor.length_skipRun_lt isAttributeNameCharacter
      (by simpa using nonempty)
    have blanks := (cursor.skipRun isAttributeNameCharacter).length_skipBlanks_le
    split at read
    · split at read
      · rename_i readTheValue
        cases read
        have value := length_readValue_le readTheValue
        have sign := ((cursor.skipRun isAttributeNameCharacter).skipBlanks).length_skip_le 1
        have gap :=
          (((cursor.skipRun isAttributeNameCharacter).skipBlanks).skip 1).length_skipBlanks_le
        omega
      · cases read
    · cases read
      omega

/-- What stands in a tag after its name: the attributes and whether a slash ends it. -/
structure TagBody where
  attributes : List Attribute
  selfClosing : Bool
deriving Repr, DecidableEq

/-- Reads the attributes of a tag and its end. -/
def readTagBody (name : String) (start : Cursor) : Except Fault (TagBody × Cursor) :=
  let cursor := start.skipBlanks
  match cursor.rest with
  | [] => .error ⟨.unterminatedTag name, cursor.position⟩
  | '>' :: _ => .ok (⟨[], false⟩, cursor.skip 1)
  | '/' :: _ =>
      let afterSlash := cursor.skip 1
      if afterSlash.next? = some '>' then
        .ok (⟨[], true⟩, afterSlash.skip 1)
      else
        .error ⟨.straySlash name, (afterSlash.skip 1).position⟩
  | _ =>
      match _read : readAttribute cursor with
      | .error fault => .error fault
      | .ok (entry, afterEntry) =>
          match readTagBody name afterEntry with
          | .error fault => .error fault
          | .ok (body, after) => .ok (⟨entry :: body.attributes, body.selfClosing⟩, after)
termination_by start.rest.length
decreasing_by
  have shorter : afterEntry.rest.length < start.skipBlanks.rest.length :=
    length_readAttribute_lt _read
  exact Nat.lt_of_lt_of_le shorter start.length_skipBlanks_le

/-- Reads an opening tag, the cursor being after its bracket. -/
def readOpeningTag (marker : Char) (cursor : Cursor) : Except Fault (Token × Cursor) := do
  let (tag, afterName) ← readTagName marker cursor
  let (body, after) ← readTagBody tag.name afterName
  return (.opening tag.name tag.isMacro body.attributes body.selfClosing, after)

/-- Whether a character belongs to the text between tags. -/
def isTextCharacter (character : Char) : Bool :=
  character != '<'

/-- Reads the token under the cursor. -/
def readToken (marker : Char) (cursor : Cursor) : Except Fault (Token × Cursor) :=
  match cursor.rest with
  | [] => .ok (.endOfSource, cursor)
  | '<' :: '/' :: _ => readClosingTag marker (cursor.skip 2)
  | '<' :: _ => readOpeningTag marker (cursor.skip 1)
  | _ =>
      .ok (.text (String.ofList (decodeCharacters (cursor.run isTextCharacter))),
        cursor.skipRun isTextCharacter)

/-- Reading the name of a tag leaves no more than there was. -/
theorem length_readTagName_le
    {marker : Char}
    {tag : TagName}
    {cursor after : Cursor}
    (read : readTagName marker cursor = .ok (tag, after)) :
    after.rest.length ≤ cursor.rest.length := by
  unfold readTagName at read
  simp only at read
  split at read
  · cases read
  · cases read
    exact Nat.le_trans (Cursor.length_skipRun_le _ _) (length_skipMarker_le marker cursor)

/-- Reading the body of a tag leaves no more than there was. -/
theorem length_readTagBody_le
    {name : String}
    {body : TagBody}
    {start after : Cursor}
    (read : readTagBody name start = .ok (body, after)) :
    after.rest.length ≤ start.rest.length := by
  have blanks := start.length_skipBlanks_le
  fun_induction readTagBody name start generalizing body after with
  | case1 => cases read
  | case2 =>
      cases read
      exact Nat.le_trans (Cursor.length_skip_le _ 1) blanks
  | case3 =>
      cases read
      exact Nat.le_trans (Cursor.length_skip_le _ 1)
        (Nat.le_trans (Cursor.length_skip_le _ 1) blanks)
  | case4 => cases read
  | case5 => cases read
  | case6 => cases read
  | case7 start cursor entry afterEntry readTheEntry body' after' readRest =>
      rename_i inductionHypothesis
      cases read
      have shorter : afterEntry.rest.length < start.skipBlanks.rest.length :=
        length_readAttribute_lt readTheEntry
      have rest := inductionHypothesis readRest afterEntry.length_skipBlanks_le
      omega

/-- Reading a token takes at least one character, unless the source has ended. -/
theorem length_readToken_lt
    {marker : Char}
    {token : Token}
    {cursor after : Cursor}
    (read : readToken marker cursor = .ok (token, after))
    (more : token ≠ .endOfSource) :
    after.rest.length < cursor.rest.length := by
  unfold readToken at read
  split at read
  · cases read
    exact absurd rfl more
  · rename_i rest equal
    have skipped := cursor.length_skip_lt (show 0 < 2 by omega) (by simp [equal])
    simp only [readClosingTag, bind, Except.bind] at read
    split at read
    · cases read
    · rename_i result readTheName
      have named := length_readTagName_le readTheName
      split at read
      · cases read
        have blanks := result.2.length_skipBlanks_le
        have ending := result.2.skipBlanks.length_skip_le 1
        omega
      · cases read
  · rename_i rest _ equal
    have skipped := cursor.length_skip_lt (show 0 < 1 by omega) (by simp [equal])
    simp only [readOpeningTag, bind, Except.bind] at read
    split at read
    · cases read
    · rename_i result readTheName
      have named := length_readTagName_le readTheName
      split at read
      · cases read
      · rename_i bodyResult readTheBody
        cases read
        have body := length_readTagBody_le readTheBody
        omega
  · rename_i notEnd notClosing notOpening
    cases read
    apply Cursor.length_skipRun_lt
    cases equal : cursor.rest with
    | nil => exact absurd equal notEnd
    | cons character rest =>
        have different : character ≠ '<' := by
          intro same
          subst same
          exact notOpening rest equal
        simp [Cursor.run, equal, List.takeWhile_cons, isTextCharacter, different]

/-- Passing over comments leaves no more than there was. -/
theorem length_skipIgnored_le
    {cursor after : Cursor}
    (skipped : skipIgnored cursor = .ok after) :
    after.rest.length ≤ cursor.rest.length := by
  fun_induction skipIgnored cursor with
  | case1 cursor _ count _ inductionHypothesis =>
      exact Nat.le_trans (inductionHypothesis skipped) (cursor.length_skip_le count)
  | case2 => cases skipped
  | case3 cursor _ _ count _ inductionHypothesis =>
      exact Nat.le_trans (inductionHypothesis skipped) (cursor.length_skip_le count)
  | case4 => cases skipped
  | case5 =>
      cases skipped
      exact Nat.le_refl _

/-- Reads the next token after any comments and processing instructions. -/
def readNext (marker : Char) (cursor : Cursor) : Except Fault (Token × Cursor) :=
  match skipIgnored cursor with
  | .ok beginning => readToken marker beginning
  | .error fault => .error fault

/-- Reading the next token takes at least one character, unless the source has ended. -/
theorem length_readNext_lt
    {marker : Char}
    {token : Token}
    {cursor after : Cursor}
    (read : readNext marker cursor = .ok (token, after))
    (more : token ≠ .endOfSource) :
    after.rest.length < cursor.rest.length := by
  unfold readNext at read
  split at read
  · rename_i skipped
    exact Nat.lt_of_lt_of_le (length_readToken_lt read more) (length_skipIgnored_le skipped)
  · cases read

/-- Reads all tokens from the cursor on, the end of the source included. -/
def readTokens (marker : Char) (cursor : Cursor) : Except Fault (List PlacedToken) :=
  match _read : readNext marker cursor with
  | .error fault => .error fault
  | .ok (token, after) =>
      if _more : token = .endOfSource then
        .ok [⟨token, cursor.position⟩]
      else
        match readTokens marker after with
        | .error fault => .error fault
        | .ok tokens => .ok (⟨token, cursor.position⟩ :: tokens)
termination_by cursor.rest.length
decreasing_by
  exact length_readNext_lt _read _more

/-- The tokens of a source, with the given character as macro marker. -/
def tokensOfSource (marker : Char) (source : String) : Except Fault (List PlacedToken) :=
  readTokens marker (.ofSource source)

end WidgetMarkup.Markup
