import WidgetMarkup.Proofs.Markup.Nesting
import WidgetMarkup.Proofs.Markup.Rendering

namespace WidgetMarkup.Markup

/-!
# Reading canonical markup

A reader that stands before a rendered piece of markup takes exactly this piece, whatever follows,
and is then right behind it. Read one after another, the pieces of a rendered forest are tokens
that spell the forest, with places of their own.
-/

/-- A run ends before a character that fails the test. -/
theorem fails_at_head
    {test : Char → Bool}
    {character : Char}
    (fails : test character = false)
    (following : List Char) :
    ∀ head ∈ (character :: following).head?, test head = false := by
  rintro head ⟨⟩
  exact fails

namespace Cursor

theorem skip_append
    (position : Position)
    (passed rest : List Char) :
    (⟨position, passed ++ rest⟩ : Cursor).skip passed.length =
      ⟨position.after passed, rest⟩ := by
  simp [skip]

theorem run_append
    {test : Char → Bool}
    {passed rest : List Char}
    (position : Position)
    (passes : ∀ character ∈ passed, test character = true)
    (stops : ∀ character ∈ rest.head?, test character = false) :
    (⟨position, passed ++ rest⟩ : Cursor).run test = passed := by
  have noMore : rest.takeWhile test = [] := by
    cases rest with
    | nil =>
        rfl
    | cons character rest =>
        have fails := stops character rfl
        simp [fails]
  rw [run, List.takeWhile_append_of_pos passes, noMore, List.append_nil]

/-- After a run the cursor stands where a character fails the test. -/
theorem skipRun_append
    {test : Char → Bool}
    {passed rest : List Char}
    (position : Position)
    (passes : ∀ character ∈ passed, test character = true)
    (stops : ∀ character ∈ rest.head?, test character = false) :
    (⟨position, passed ++ rest⟩ : Cursor).skipRun test = ⟨position.after passed, rest⟩ := by
  rw [skipRun, run_append position passes stops, skip_append]

/-- A cursor that stands before no blank passes none. -/
theorem skipBlanks_of_not_blank
    {rest : List Char}
    (position : Position)
    (stops : ∀ character ∈ rest.head?, Text.isBlank character = false) :
    (⟨position, rest⟩ : Cursor).skipBlanks = ⟨position, rest⟩ :=
  @skipRun_append Text.isBlank [] rest position (by simp) stops

end Cursor

/-- A name begins with one of its characters. -/
theorem IsNameOf.exists_cons
    {test : Char → Bool}
    {name : String}
    (isName : IsNameOf test name) :
    ∃ first rest, name.toList = first :: rest ∧ test first = true := by
  obtain ⟨first, rest, shape⟩ := List.exists_cons_of_ne_nil isName.notEmpty
  exact ⟨first, rest, shape, isName.characters first (shape ▸ List.mem_cons_self)⟩

/-- Behind the place for the marker, a name is read up to where it ends. -/
theorem readTagName_of_skipMarker
    {marker : Char}
    {cursor : Cursor}
    {name : String}
    {rest : List Char}
    {beginning : Position}
    (skipped : skipMarker marker cursor = ⟨beginning, name.toList ++ rest⟩)
    (isName : IsNameOf isNameCharacter name)
    (stops : ∀ character ∈ rest.head?, isNameCharacter character = false) :
    readTagName marker cursor =
      .ok (⟨name, cursor.next? == some marker⟩, ⟨beginning.after name.toList, rest⟩) := by
  have notEmpty := isName.notEmpty
  rw [readTagName, skipped, Cursor.run_append beginning isName.characters stops,
    Cursor.skipRun_append beginning isName.characters stops]
  simpa using notEmpty

theorem readTagName_rendered
    {marker : Char}
    {name : String}
    {rest : List Char}
    (isMarker : IsMarker marker)
    (isName : IsNameOf isNameCharacter name)
    (isMacro : Bool)
    (position : Position)
    (stops : ∀ character ∈ rest.head?, isNameCharacter character = false) :
    readTagName marker ⟨position, renderTagName marker name isMacro ++ rest⟩ =
      .ok (⟨name, isMacro⟩, ⟨position.after (renderTagName marker name isMacro), rest⟩) := by
  cases isMacro with
  | true =>
      have skipped :
          skipMarker marker ⟨position, renderTagName marker name true ++ rest⟩ =
            ⟨position.advance marker, name.toList ++ rest⟩ := by
        simp [skipMarker, renderTagName, Cursor.next?, Cursor.skip]
      rw [readTagName_of_skipMarker skipped isName stops]
      simp [renderTagName, Cursor.next?]
  | false =>
      obtain ⟨first, others, shape, firstFits⟩ := isName.exists_cons
      have different : first ≠ marker := by
        rintro rfl
        simp [isMarker.notInNames] at firstFits
      have skipped :
          skipMarker marker ⟨position, renderTagName marker name false ++ rest⟩ =
            ⟨position, name.toList ++ rest⟩ := by
        simp [skipMarker, renderTagName, Cursor.next?, shape, different]
      rw [readTagName_of_skipMarker skipped isName stops]
      simp [renderTagName, Cursor.next?, shape, different]

/-- A quoted value is read up to its closing quote. -/
theorem readValue_rendered
    (name value : String)
    (position : Position)
    (rest : List Char) :
    readValue name ⟨position, '\x22' :: (escapeValue value ++ '\x22' :: rest)⟩ =
      .ok (value, ⟨position.after ('\x22' :: (escapeValue value ++ ['\x22'])), rest⟩) := by
  have inside :
      (⟨position, '\x22' :: (escapeValue value ++ '\x22' :: rest)⟩ : Cursor).skip 1 =
        ⟨position.advance '\x22', escapeValue value ++ '\x22' :: rest⟩ :=
    rfl
  have passes : ∀ character ∈ escapeValue value, (character != '\x22') = true :=
    fun _ => ne_quote_of_mem_escapeValue
  have stops : ∀ character ∈ ('\x22' :: rest).head?, (character != '\x22') = false := by
    simp
  simp only [readValue, inside, Cursor.run_append _ passes stops,
    Cursor.skipRun_append _ passes stops, decodeCharacters_escapeValue]
  simp [isQuoteMark, Cursor.skip, Position.after_append]

/-- An attribute is read up to the closing quote of its value. -/
theorem readAttribute_rendered
    {entry : Attribute}
    (isName : IsNameOf isAttributeNameCharacter entry.name)
    (position : Position)
    (rest : List Char) :
    readAttribute
        ⟨position,
          entry.name.toList ++ '=' :: '\x22' :: (escapeValue entry.value ++ '\x22' :: rest)⟩ =
      .ok (entry,
        ⟨position.after
          (entry.name.toList ++ '=' :: '\x22' :: (escapeValue entry.value ++ ['\x22'])),
          rest⟩) := by
  have notEmpty := isName.notEmpty
  have stops (following : List Char) :=
    @fails_at_head isAttributeNameCharacter '=' (by decide) following
  have afterSign (beginning : Position) (following : List Char) :
      (⟨beginning, '=' :: following⟩ : Cursor).skip 1 = ⟨beginning.advance '=', following⟩ :=
    rfl
  simp only [readAttribute, Cursor.run_append position isName.characters (stops _),
    Cursor.skipRun_append position isName.characters (stops _)]
  rw [Cursor.skipBlanks_of_not_blank _ (fails_at_head (by decide) _), afterSign,
    Cursor.skipBlanks_of_not_blank _ (fails_at_head (by decide) _), String.ofList_toList,
    readValue_rendered]
  simp [notEmpty, Cursor.next?, Position.after_append]

/-- Behind blanks, a tag that goes on with an attribute is read with that attribute in front. -/
theorem readTagBody_cons
    {name : String}
    {start : Cursor}
    {character : Char}
    {following : List Char}
    {entry : Attribute}
    {afterEntry after : Cursor}
    {body : TagBody}
    (shape : start.skipBlanks.rest = character :: following)
    (notEnd : character ≠ '>')
    (notSlash : character ≠ '/')
    (readEntry : readAttribute start.skipBlanks = .ok (entry, afterEntry))
    (readRest : readTagBody name afterEntry = .ok (body, after)) :
    readTagBody name start = .ok (⟨entry :: body.attributes, body.selfClosing⟩, after) := by
  rw [readTagBody]
  split
  · rename_i isEnd
    simp [isEnd] at shape
  · rename_i isEnd
    simp [isEnd, notEnd.symm] at shape
  · rename_i isEnd
    simp [isEnd, notSlash.symm] at shape
  · split
    · rename_i failed
      simp [readEntry] at failed
    · rename_i entry' afterEntry' read
      obtain ⟨rfl, rfl⟩ : entry' = entry ∧ afterEntry' = afterEntry := by
        simpa using read.symm.trans readEntry
      rw [readRest]

/-- The attributes of a tag are read up to the bracket at its end. -/
theorem readTagBody_rendered
    {attributes : List Attribute}
    (areNames :
      ∀ entry ∈ attributes, IsNameOf isAttributeNameCharacter entry.name)
    (name : String)
    (position : Position)
    (rest : List Char) :
    readTagBody name ⟨position, attributes.flatMap Attribute.render ++ '>' :: rest⟩ =
      .ok (⟨attributes, false⟩,
        ⟨position.after (attributes.flatMap Attribute.render ++ ['>']), rest⟩) := by
  induction attributes generalizing position with
  | nil =>
      rw [List.flatMap_nil, List.nil_append, readTagBody,
        Cursor.skipBlanks_of_not_blank position (fails_at_head (by decide) rest)]
      rfl
  | cons entry others inductionHypothesis =>
      rw [List.forall_mem_cons] at areNames
      obtain ⟨first, more, shape, firstFits⟩ := areNames.1.exists_cons
      have plain : Text.isBlank first = false ∧ first ≠ '>' ∧ first ≠ '/' := by
        simp [isAttributeNameCharacter] at firstFits
        tauto
      have written :
          (entry :: others).flatMap Attribute.render ++ '>' :: rest =
            [' '] ++ (entry.name.toList ++ '=' :: '\x22' :: (escapeValue entry.value ++
              '\x22' :: (others.flatMap Attribute.render ++ '>' :: rest))) := by
        simp [Attribute.render]
      have skipped :
          (⟨position, (entry :: others).flatMap Attribute.render ++ '>' :: rest⟩ :
              Cursor).skipBlanks =
            ⟨position.advance ' ', entry.name.toList ++ '=' :: '\x22' ::
              (escapeValue entry.value ++
                '\x22' :: (others.flatMap Attribute.render ++ '>' :: rest))⟩ := by
        rw [written]
        refine Cursor.skipRun_append position (List.forall_mem_singleton.2 (by decide)) ?_
        rw [shape]
        exact fails_at_head plain.1 _
      have readEntry := readAttribute_rendered areNames.1 (position.advance ' ')
        (others.flatMap Attribute.render ++ '>' :: rest)
      rw [← skipped] at readEntry
      rw [readTagBody_cons (by rw [skipped, shape]; rfl) plain.2.1 plain.2.2 readEntry
        (inductionHypothesis areNames.2 _)]
      simp [Attribute.render, Position.after_append]

/-- An opening tag is read up to its bracket. -/
theorem readOpeningTag_rendered
    {marker : Char}
    {name : String}
    {attributes : List Attribute}
    (isMarker : IsMarker marker)
    (isName : IsNameOf isNameCharacter name)
    (areNames :
      ∀ entry ∈ attributes, IsNameOf isAttributeNameCharacter entry.name)
    (isMacro : Bool)
    (position : Position)
    (rest : List Char) :
    readOpeningTag marker ⟨position, renderOpening marker name isMacro attributes ++ rest⟩ =
      .ok (.opening name isMacro attributes false,
        ⟨position.after (renderOpening marker name isMacro attributes), rest⟩) := by
  have stops :
      ∀ character ∈ (attributes.flatMap Attribute.render ++ '>' :: rest).head?,
        isNameCharacter character = false := by
    cases attributes with
    | nil =>
        exact fails_at_head (by decide) rest
    | cons entry others =>
        exact fails_at_head (by decide) _
  have readName := readTagName_rendered isMarker isName isMacro position stops
  have readBody := readTagBody_rendered areNames name
    (position.after (renderTagName marker name isMacro)) rest
  simp [readOpeningTag, renderOpening, readName, readBody, bind, Except.bind, pure, Except.pure,
    Position.after_append]

theorem readClosingTag_rendered
    {marker : Char}
    {name : String}
    (isMarker : IsMarker marker)
    (isName : IsNameOf isNameCharacter name)
    (isMacro : Bool)
    (position : Position)
    (rest : List Char) :
    readClosingTag marker ⟨position, renderClosing marker name isMacro ++ rest⟩ =
      .ok (.closing name isMacro,
        ⟨position.after (renderClosing marker name isMacro), rest⟩) := by
  have readName := readTagName_rendered isMarker isName isMacro position
    (@fails_at_head isNameCharacter '>' (by decide) rest)
  have noBlanks (beginning : Position) :=
    Cursor.skipBlanks_of_not_blank beginning (@fails_at_head Text.isBlank '>' (by decide) rest)
  simp [readClosingTag, renderClosing, readName, noBlanks, bind, Except.bind, pure, Except.pure,
    Cursor.next?, Cursor.skip, Position.after_append]

/-- A tag that begins like neither a comment nor an instruction is not passed over. -/
theorem skipIgnored_of_tag
    {first : Char}
    (notExclamation : first ≠ '!')
    (notQuestion : first ≠ '?')
    (position : Position)
    (rest : List Char) :
    skipIgnored ⟨position, '<' :: first :: rest⟩ = .ok ⟨position, '<' :: first :: rest⟩ := by
  rw [skipIgnored]
  simp [Cursor.startsWith, commentOpening, instructionOpening, List.isPrefixOf,
    notExclamation.symm, notQuestion.symm]

theorem skipIgnored_of_text
    {first : Char}
    (notBracket : first ≠ '<')
    (position : Position)
    (rest : List Char) :
    skipIgnored ⟨position, first :: rest⟩ = .ok ⟨position, first :: rest⟩ := by
  rw [skipIgnored]
  simp [Cursor.startsWith, commentOpening, instructionOpening, List.isPrefixOf, notBracket.symm]

/-- The name of a tag begins like no other piece of markup, with or without its marker. -/
theorem exists_cons_renderTagName
    {marker : Char}
    {name : String}
    (isMarker : IsMarker marker)
    (isName : IsNameOf isNameCharacter name)
    (isMacro : Bool) :
    ∃ first following,
      renderTagName marker name isMacro = first :: following ∧
        first ≠ '/' ∧ first ≠ '!' ∧ first ≠ '?' := by
  cases isMacro with
  | true =>
      exact ⟨marker, name.toList, rfl, isMarker.notSlash, isMarker.notExclamation,
        isMarker.notQuestion⟩
  | false =>
      obtain ⟨first, following, shape, firstFits⟩ := isName.exists_cons
      refine ⟨first, following, shape, ?_, ?_, ?_⟩ <;>
        · rintro rfl
          revert firstFits
          decide

/-- A bracket with no slash behind it begins an opening tag. -/
theorem readToken_opening
    {first : Char}
    (notSlash : first ≠ '/')
    (marker : Char)
    (position : Position)
    (rest : List Char) :
    readToken marker ⟨position, '<' :: first :: rest⟩ =
      readOpeningTag marker ⟨position.advance '<', first :: rest⟩ := by
  unfold readToken
  split
  · rename_i shape
    cases shape
  · rename_i shape
    cases shape
    exact absurd rfl notSlash
  · rfl
  · rename_i notTag
    exact absurd rfl (notTag (first :: rest))

/-- What begins with no bracket is text up to the next one. -/
theorem readToken_text
    {first : Char}
    (notBracket : first ≠ '<')
    (marker : Char)
    (position : Position)
    (rest : List Char) :
    let cursor : Cursor := ⟨position, first :: rest⟩
    readToken marker cursor =
      .ok (.text (String.ofList (decodeCharacters (cursor.run isTextCharacter))),
        cursor.skipRun isTextCharacter) := by
  intro cursor
  unfold readToken
  split
  · rename_i shape
    cases shape
  · rename_i shape
    cases shape
    exact absurd rfl notBracket
  · rename_i shape
    cases shape
    exact absurd rfl notBracket
  · rfl

/-- The next token before a rendered opening tag is this tag. -/
theorem readNext_opening
    {marker : Char}
    {name : String}
    {attributes : List Attribute}
    (isMarker : IsMarker marker)
    (isName : IsNameOf isNameCharacter name)
    (areNames :
      ∀ entry ∈ attributes, IsNameOf isAttributeNameCharacter entry.name)
    (isMacro : Bool)
    (position : Position)
    (rest : List Char) :
    readNext marker ⟨position, '<' :: (renderOpening marker name isMacro attributes ++ rest)⟩ =
      .ok (.opening name isMacro attributes false,
        ⟨position.after ('<' :: renderOpening marker name isMacro attributes), rest⟩) := by
  have read := readOpeningTag_rendered isMarker isName areNames isMacro (position.advance '<') rest
  obtain ⟨first, following, shape, notSlash, notExclamation, notQuestion⟩ :=
    exists_cons_renderTagName isMarker isName isMacro
  simp only [renderOpening, shape, List.cons_append] at read ⊢
  rw [readNext, skipIgnored_of_tag notExclamation notQuestion]
  exact (readToken_opening notSlash marker position _).trans read

theorem readNext_closing
    {marker : Char}
    {name : String}
    (isMarker : IsMarker marker)
    (isName : IsNameOf isNameCharacter name)
    (isMacro : Bool)
    (position : Position)
    (rest : List Char) :
    readNext marker ⟨position, '<' :: '/' :: (renderClosing marker name isMacro ++ rest)⟩ =
      .ok (.closing name isMacro,
        ⟨position.after ('<' :: '/' :: renderClosing marker name isMacro), rest⟩) := by
  rw [readNext, skipIgnored_of_tag (by decide) (by decide)]
  exact readClosingTag_rendered isMarker isName isMacro _ rest

theorem readNext_text
    {marker : Char}
    {text : String}
    (notEmpty : text ≠ "")
    (position : Position)
    (rest : List Char) :
    readNext marker ⟨position, escapeText text ++ '<' :: rest⟩ =
      .ok (.text text, ⟨position.after (escapeText text), '<' :: rest⟩) := by
  have stops := @fails_at_head isTextCharacter '<' (by decide) rest
  have passes : ∀ character ∈ escapeText text, isTextCharacter character = true :=
    fun _ => isTextCharacter_of_mem_escapeText
  obtain ⟨first, following, shape⟩ :=
    List.exists_cons_of_ne_nil (mt (escapeText_eq_nil_iff text).mp notEmpty)
  have notBracket : first ≠ '<' := by
    simpa [isTextCharacter] using passes first (shape ▸ List.mem_cons_self)
  have isRun := Cursor.run_append position passes stops
  have afterRun := Cursor.skipRun_append position passes stops
  have decoded := decodeCharacters_escapeText text
  rw [shape, List.cons_append] at isRun afterRun ⊢
  rw [readNext, skipIgnored_of_text notBracket]
  refine (readToken_text notBracket marker position _).trans ?_
  rw [isRun, afterRun, ← shape, decoded, String.ofList_toList]

/-- At the end of a source there is its end. -/
theorem readNext_nil
    (marker : Char)
    (position : Position) :
    readNext marker ⟨position, []⟩ = .ok (.endOfSource, ⟨position, []⟩) := by
  have noneIgnored : skipIgnored ⟨position, []⟩ = .ok ⟨position, []⟩ := by
    rw [skipIgnored]
    rfl
  rw [readNext, noneIgnored]
  rfl

/-- Where the end of the source is next, there is no other token. -/
theorem readTokens_of_readNext_end
    {marker : Char}
    {cursor after : Cursor}
    (read : readNext marker cursor = .ok (.endOfSource, after)) :
    readTokens marker cursor = .ok [⟨.endOfSource, cursor.position⟩] := by
  rw [readTokens]
  split
  · rename_i failed
    simp [read] at failed
  · rename_i token after' found
    obtain ⟨rfl, -⟩ : token = .endOfSource ∧ after' = after := by
      simpa using found.symm.trans read
    rfl

/-- A token that is not the end of the source is read before the rest. -/
theorem readTokens_cons
    {marker : Char}
    {cursor after : Cursor}
    {token : Token}
    {tokens : List PlacedToken}
    (read : readNext marker cursor = .ok (token, after))
    (more : token ≠ .endOfSource)
    (readRest : readTokens marker after = .ok tokens) :
    readTokens marker cursor = .ok (⟨token, cursor.position⟩ :: tokens) := by
  rw [readTokens]
  split
  · rename_i failed
    simp [read] at failed
  · rename_i token' after' read'
    obtain ⟨rfl, rfl⟩ : token' = token ∧ after' = after := by
      simpa using read'.symm.trans read
    rw [dif_neg more, readRest]

/-- What is rendered inside a tag is followed by a bracket. -/
theorem exists_renderAll_append_bracket
    (marker : Char)
    (forest : List Node)
    (following : List Char) :
    ∃ rest, Node.renderAll marker forest ++ '<' :: following = '<' :: rest := by
  cases forest with
  | nil =>
      exact ⟨following, rfl⟩
  | cons node others =>
      cases node
      simp [Node.renderAll, Node.render]

/-- Rendered text is read as a token that spells the lines of the text, or as none. -/
theorem readTokens_renderedText
    {marker : Char}
    {text : String}
    {rest : List Char}
    {following : List PlacedToken}
    (position : Position)
    (readRest :
      readTokens marker ⟨position.after (escapeText text), '<' :: rest⟩ = .ok following) :
    ∃ tokens,
      readTokens marker ⟨position, escapeText text ++ '<' :: rest⟩ = .ok (tokens ++ following) ∧
        Spells tokens (Text.trimmedLines text) [] := by
  by_cases empty : text = ""
  · subst empty
    exact ⟨[], readRest, .nothing⟩
  · exact ⟨[⟨.text text, position⟩],
      readTokens_cons (readNext_text empty position rest) nofun readRest, .ofText text position⟩

/-- The lines of a text made of trimmed lines are that text again. -/
theorem IsTrimmedText.join_trimmedLines
    {text : String}
    (isTrimmed : IsTrimmedText text) :
    Text.join "\n" (Text.trimmedLines text) = text := by
  obtain ⟨lines, areLines, rfl⟩ := isTrimmed
  rw [Text.trimmedLines_join areLines]

/--
The tokens of a rendered forest spell the forest, up to places, and whatever follows the forest is
read after them.
-/
theorem readTokens_rendered
    {marker : Char}
    {forest : List Node}
    (isMarker : IsMarker marker)
    (wellFormed : IsWellFormed forest)
    (position : Position)
    {rest : List Char}
    {following : List PlacedToken}
    (readRest :
      readTokens marker ⟨position.after (Node.renderAll marker forest), rest⟩ = .ok following) :
    ∃ tokens placed,
      readTokens marker ⟨position, Node.renderAll marker forest ++ rest⟩ =
          .ok (tokens ++ following) ∧
        Spells tokens [] placed ∧
        Node.unplacedAll placed = Node.unplacedAll forest := by
  induction wellFormed generalizing position rest following with
  | nothing =>
      exact ⟨[], [], readRest, .nothing, rfl⟩
  | @node name isMacro attributes children others text _ isName areNames isTrimmed _ _
      insideHypothesis othersHypothesis =>
      let opened := position.after ('<' :: renderOpening marker name isMacro attributes)
      let written := opened.after (escapeText text)
      let inside := written.after (Node.renderAll marker children)
      have atOthers :
          readTokens marker
            ⟨(inside.after ('<' :: '/' :: renderClosing marker name isMacro)).after
              (Node.renderAll marker others), rest⟩ = .ok following := by
        simpa [Node.renderAll, Node.render, Position.after_append, inside, written, opened]
          using readRest
      obtain ⟨otherTokens, placedOthers, readOthers, spellsOthers, sameOthers⟩ :=
        othersHypothesis _ atOthers
      have readClosing :=
        readTokens_cons (readNext_closing isMarker isName isMacro inside _) nofun readOthers
      obtain ⟨innerTokens, placedChildren, readInside, spellsInside, sameChildren⟩ :=
        insideHypothesis written readClosing
      obtain ⟨behindText, shape⟩ := exists_renderAll_append_bracket marker children
        ('/' :: (renderClosing marker name isMacro ++ (Node.renderAll marker others ++ rest)))
      rw [shape] at readInside
      obtain ⟨textTokens, readText, spellsText⟩ := readTokens_renderedText opened readInside
      have readOpening :=
        readTokens_cons (readNext_opening isMarker isName areNames isMacro position _) nofun
          readText
      have spells :=
        Spells.tag ⟨name, isMacro, attributes, position⟩ name inside (Text.sameName_self name)
          (spellsText.append spellsInside) spellsOthers
      refine ⟨_, _, ?_, spells, ?_⟩
      · rw [← shape] at readOpening
        simpa [Node.renderAll, Node.render] using readOpening
      · simp [Node.unplacedAll, Node.unplaced, sameChildren, sameOthers,
          isTrimmed.join_trimmedLines]

end WidgetMarkup.Markup
