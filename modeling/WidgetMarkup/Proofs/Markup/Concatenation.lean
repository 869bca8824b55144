import WidgetMarkup.Proofs.Markup.BareTokens

namespace WidgetMarkup.Markup

/-!
# One source after another

Of two sources that stand one after another, only a text at the end of the first and one at the
beginning of the second grow together. Outside of all tags both are blank, and then so is what they
grow into, even where the blanks are written as references. So the forests stand one after another,
too.
-/

section References

/-- What stands before the first semicolon is the same with more behind. -/
theorem splitAtSemicolon?_append
    {characters before after : List Char}
    (found : splitAtSemicolon? characters = some (before, after))
    (more : List Char) :
    splitAtSemicolon? (characters ++ more) = some (before, after ++ more) := by
  induction characters generalizing before with
  | nil =>
      cases found
  | cons character rest inductionHypothesis =>
      rw [List.cons_append]
      unfold splitAtSemicolon? at found ⊢
      split at found
      · cases found
        rw [if_pos (by assumption)]
      · obtain ⟨⟨before', after'⟩, foundRest, same⟩ := Option.map_eq_some_iff.mp found
        cases same
        rw [if_neg (by assumption), inductionHypothesis foundRest, Option.map_some]

theorem readReference?_append
    {characters after : List Char}
    {decoded : Char}
    (found : readReference? characters = some (decoded, after))
    (more : List Char) :
    readReference? (characters ++ more) = some (decoded, after ++ more) := by
  unfold readReference? at found ⊢
  split at found
  · rename_i body rest split
    obtain ⟨character, isReference, same⟩ := Option.map_eq_some_iff.mp found
    cases same
    rw [splitAtSemicolon?_append split more]
    simp only [isReference, Option.map_some]
  · cases found

/-- A text with no ampersand left in it has no reference that goes on behind it. -/
theorem decodeCharacters_append
    {characters : List Char}
    (noneLeft : '&' ∉ decodeCharacters characters)
    (more : List Char) :
    decodeCharacters (characters ++ more) =
      decodeCharacters characters ++ decodeCharacters more := by
  fun_induction decodeCharacters characters with
  | case1 => rfl
  | case2 character rest isOpening decoded after found inductionHypothesis =>
      rw [List.mem_cons, not_or] at noneLeft
      obtain rfl : character = '&' := by simpa [isReferenceOpening] using isOpening
      rw [List.cons_append, decodeCharacters_reference (readReference?_append found more),
        inductionHypothesis noneLeft.2, List.cons_append]
  | case3 character rest isOpening _ _ =>
      obtain rfl : character = '&' := by simpa [isReferenceOpening] using isOpening
      exact absurd List.mem_cons_self noneLeft
  | case4 character rest notOpening inductionHypothesis =>
      rw [List.mem_cons, not_or] at noneLeft
      have plain : character ≠ '&' := by simpa [isReferenceOpening] using notOpening
      rw [List.cons_append, decodeCharacters_plain plain, inductionHypothesis noneLeft.2,
        List.cons_append]

/-- Blanks that follow blanks are blanks, however either are written. -/
theorem isBlankText_decoded_append
    {characters more : List Char}
    (firstBlank : Text.isBlankText (String.ofList (decodeCharacters characters)) = true)
    (moreBlank : Text.isBlankText (String.ofList (decodeCharacters more)) = true) :
    Text.isBlankText (String.ofList (decodeCharacters (characters ++ more))) = true := by
  simp only [Text.isBlankText, String.toList_ofList] at firstBlank moreBlank ⊢
  have noneLeft : '&' ∉ decodeCharacters characters := by
    intro isLeft
    exact absurd (List.all_eq_true.mp firstBlank '&' isLeft) (by decide)
  rw [decodeCharacters_append noneLeft, List.all_append, firstBlank, moreBlank, Bool.and_self]

end References

/-- The tokens of two sources one after another, where a text may grow together with another. -/
inductive Joins : List Token → List Token → List Token → Prop where
  | apart
      (first second : List Token) :
      Joins first second (first ++ second)
  | together
      (front back : List Token)
      {first second joined : String} :
      (Text.isBlankText first = true →
        Text.isBlankText second = true →
          Text.isBlankText joined = true) →
      Joins (front ++ [.text first]) (.text second :: back) (front ++ .text joined :: back)

theorem Joins.cons
    {first second joined : List Token}
    (joins : Joins first second joined)
    (token : Token) :
    Joins (token :: first) second (token :: joined) := by
  cases joins with
  | apart =>
      exact .apart (token :: first) second
  | together front back blank =>
      exact .together (token :: front) back blank

section Reading

variable {marker : Char} {first second : List Char} {firstTokens secondTokens : List Token}

/-- A text is read up to the next bracket. -/
theorem readNext_of_text
    {character : Char}
    (notBracket : character ≠ '<')
    (marker : Char)
    (position : Position)
    (rest : List Char) :
    ∃ after,
      readNext marker ⟨position, character :: rest⟩ =
          .ok (.text (String.ofList
            (decodeCharacters ((character :: rest).takeWhile isTextCharacter))), after) ∧
        after.rest = (character :: rest).dropWhile isTextCharacter := by
  refine ⟨_, ?_, Cursor.rest_skipRun ⟨position, character :: rest⟩ isTextCharacter⟩
  rw [readNext, skipIgnored_of_text notBracket]
  exact readToken_text notBracket marker position rest

/-- A text that reaches up to the end of a source takes in the text that follows. -/
theorem readNext_grown
    {shorter after : Cursor}
    {token : Token}
    (read : readNext marker shorter = .ok (token, after))
    (notEnd : token ≠ .endOfSource)
    (notTag : token.isTag = false)
    (atEnd : after.rest = []) :
    ∃ written,
      token = .text (String.ofList (decodeCharacters written)) ∧
        ∀ more position, ∃ after',
          readNext marker ⟨position, shorter.rest ++ more⟩ =
              .ok (.text (String.ofList
                (decodeCharacters (written ++ more.takeWhile isTextCharacter))), after') ∧
            after'.rest = more.dropWhile isTextCharacter := by
  unfold readNext at read
  split at read
  · rename_i beginning skipped
    obtain ⟨isEnd, -⟩ | ⟨isTag, -⟩ | ⟨character, others, shape, notBracket, rfl, rfl⟩ :=
      readToken_cases read
    · exact absurd isEnd notEnd
    · simp [isTag] at notTag
    · rw [Cursor.rest_skipRun, List.dropWhile_eq_nil_iff] at atEnd
      have whole : beginning.run isTextCharacter = beginning.rest :=
        List.takeWhile_eq_self_iff.mpr atEnd
      refine ⟨beginning.rest, by rw [whole], fun more position => ?_⟩
      obtain ⟨place, same⟩ :=
        skipIgnored_continues skipped
          (show Cursor.Continues ⟨position, shorter.rest ++ more⟩ _ more from rfl)
      have readMore := readNext_of_text notBracket marker place (others ++ more)
      rw [← List.cons_append, ← shape, List.takeWhile_append_of_pos atEnd,
        List.dropWhile_append_of_pos atEnd] at readMore
      rwa [readNext, same]
  · cases read

/-- The tokens of a source that follows another one are its own, but for a text in between. -/
theorem Reads.exists_joined
    (readsFirst : Reads marker first firstTokens)
    (readsSecond : Reads marker second secondTokens) :
    ∃ joined, Reads marker (first ++ second) joined ∧ Joins firstTokens secondTokens joined := by
  induction readsFirst with
  | @nothing first position _ read =>
      obtain ⟨_, same⟩ :=
        readNext_continues_of_end read
          (show Cursor.Continues ⟨position, first ++ second⟩ _ second from rfl)
      exact ⟨secondTokens, Reads.of_readNext_eq same.symm readsSecond, .apart [] secondTokens⟩
  | @next first position token after tokens read notEnd readsRest inductionHypothesis =>
      by_cases settled : token.isTag = false → after.rest = [] → second = []
      · obtain ⟨_, readLonger, behind⟩ :=
          readNext_continues read notEnd
            (show Cursor.Continues ⟨position, first ++ second⟩ _ second from rfl) settled
        obtain ⟨joined, reads, joins⟩ := inductionHypothesis
        exact ⟨token :: joined, .next readLonger notEnd (behind ▸ reads), joins.cons token⟩
      · simp only [Classical.not_imp] at settled
        obtain ⟨notTag, atEnd, nonempty⟩ := settled
        rw [atEnd] at readsRest
        obtain rfl := readsRest.eq_nil
        obtain ⟨written, rfl, grows⟩ := readNext_grown read notEnd notTag atEnd
        obtain ⟨after', readGrown, behind⟩ := grows second position
        obtain ⟨character, others, rfl⟩ := List.exists_cons_of_ne_nil nonempty
        by_cases isBracket : character = '<'
        · -- The text ends before the bracket, as it ended with the first source.
          subst isBracket
          have none : ('<' :: others).takeWhile isTextCharacter = [] := rfl
          have all : ('<' :: others).dropWhile isTextCharacter = '<' :: others := rfl
          rw [none, List.append_nil] at readGrown
          rw [all] at behind
          exact ⟨_, .next readGrown notEnd (behind ▸ readsSecond), .apart [_] secondTokens⟩
        · obtain ⟨_, readText, behindText⟩ :=
            readNext_of_text isBracket marker position others
          obtain ⟨back, rfl, readsBack⟩ := (Reads.next_iff readText nofun).mp readsSecond
          rw [behindText, ← behind] at readsBack
          exact ⟨_, .next readGrown nofun readsBack,
            .together [] back isBlankText_decoded_append⟩

end Reading

/-- What tokens spell behind a text, they spell with its lines in front of it. -/
theorem Spells.of_text_cons
    {rest : List PlacedToken}
    {content : String}
    {position : Position}
    {lines : List String}
    {nodes : List Node}
    (spells : Spells (⟨.text content, position⟩ :: rest) lines nodes) :
    ∃ restLines,
      Spells rest restLines nodes ∧ lines = Text.trimmedLines content ++ restLines := by
  cases spells with
  | text _ _ spellsRest => exact ⟨_, spellsRest, rfl⟩

/-- What tokens spell before a text at their end, they spell with its lines behind it. -/
theorem Spells.of_concat_text
    {front : List PlacedToken}
    {content : String}
    {position : Position}
    {lines : List String}
    {nodes : List Node}
    (spells : Spells (front ++ [⟨.text content, position⟩]) lines nodes) :
    ∃ frontLines,
      Spells front frontLines nodes ∧ lines = frontLines ++ Text.trimmedLines content := by
  generalize shape : front ++ [⟨.text content, position⟩] = tokens at spells
  induction spells generalizing front with
  | nothing =>
      simp at shape
  | text _ _ spells inductionHypothesis =>
      cases front with
      | nil =>
          cases shape
          cases spells
          exact ⟨[], .nothing, List.append_nil _⟩
      | cons first others =>
          obtain ⟨rfl, sameRest⟩ := List.cons.inj shape
          obtain ⟨frontLines, spellsOthers, rfl⟩ := inductionHypothesis sameRest
          exact ⟨_, .text _ _ spellsOthers, (List.append_assoc _ _ _).symm⟩
  | selfClosing opening _ inductionHypothesis =>
      cases front with
      | nil =>
          cases shape
      | cons first others =>
          obtain ⟨rfl, sameRest⟩ := List.cons.inj shape
          obtain ⟨frontLines, spellsOthers, rfl⟩ := inductionHypothesis sameRest
          exact ⟨frontLines, .selfClosing opening spellsOthers, rfl⟩
  | @tag opening closingName _ inside rest _ _ _ _ sameName spellsInside _ _ restHypothesis =>
      cases front with
      | nil =>
          cases shape
      | cons first others =>
          obtain ⟨rfl, sameRest⟩ := List.cons.inj shape
          obtain rfl | ⟨behind, last, rfl⟩ := rest.eq_nil_or_concat'
          · have sameLast := (List.append_inj' sameRest rfl).2
            simp at sameLast
          · have sameEnds := sameRest.trans (List.append_assoc inside (_ :: behind) [last]).symm
            obtain ⟨rfl, sameLast⟩ := List.append_inj' sameEnds rfl
            obtain ⟨frontLines, spellsBehind, rfl⟩ := restHypothesis (by rw [sameLast])
            exact ⟨frontLines, .tag opening closingName _ sameName spellsInside spellsBehind, rfl⟩

/-- Tokens that join what spells two forests spell one forest after the other. -/
theorem Joins.exists_spelled
    {firstTokens secondTokens : List PlacedToken}
    {firstNodes secondNodes : List Node}
    {joined : List Token}
    (joins :
      Joins (firstTokens.map PlacedToken.token) (secondTokens.map PlacedToken.token) joined)
    (spellsFirst : Spells firstTokens [] firstNodes)
    (spellsSecond : Spells secondTokens [] secondNodes) :
    ∃ tokens,
      tokens.map PlacedToken.token = joined ∧ Spells tokens [] (firstNodes ++ secondNodes) := by
  generalize sameFirst : firstTokens.map PlacedToken.token = first at joins
  generalize sameSecond : secondTokens.map PlacedToken.token = second at joins
  cases joins with
  | apart =>
      refine ⟨firstTokens ++ secondTokens, ?_, spellsFirst.append spellsSecond⟩
      rw [List.map_append, sameFirst, sameSecond]
  | @together front back firstText secondText joinedText blank =>
      obtain ⟨frontTokens, _, rfl, rfl, sameEnd⟩ := List.map_eq_append_iff.mp sameFirst
      obtain ⟨⟨_, position⟩, _, rfl, rfl, sameNone⟩ := List.map_eq_cons_iff.mp sameEnd
      obtain rfl := List.map_eq_nil_iff.mp sameNone
      obtain ⟨⟨_, position'⟩, backTokens, rfl, rfl, rfl⟩ := List.map_eq_cons_iff.mp sameSecond
      obtain ⟨frontLines, spellsFront, noLines⟩ := spellsFirst.of_concat_text
      obtain ⟨rfl, noFirstLines⟩ := List.append_eq_nil_iff.mp noLines.symm
      obtain ⟨backLines, spellsBack, noLines'⟩ := spellsSecond.of_text_cons
      obtain ⟨noSecondLines, rfl⟩ := List.append_eq_nil_iff.mp noLines'.symm
      have noJoinedLines : Text.trimmedLines joinedText = [] := by
        rw [Text.trimmedLines_eq_nil_iff] at noFirstLines noSecondLines ⊢
        exact blank noFirstLines noSecondLines
      refine ⟨frontTokens ++ ⟨.text joinedText, position⟩ :: backTokens, ?_, ?_⟩
      · rw [List.map_append, List.map_cons]
      · have spells := spellsFront.append (.text joinedText position spellsBack)
        rwa [noJoinedLines] at spells

theorem Node.unplacedAll_append
    (first second : List Node) :
    unplacedAll (first ++ second) = unplacedAll first ++ unplacedAll second := by
  induction first with
  | nil =>
      rfl
  | cons node rest inductionHypothesis =>
      rw [List.cons_append, unplacedAll, unplacedAll, inductionHypothesis, List.cons_append]

/--
Sources stand one after another: whatever two sources spell, one behind the other they spell the
one forest behind the other, up to places.
-/
theorem forestOfSource_append
    (marker : Char)
    {first second : String}
    {firstForest secondForest : List Node}
    (readFirst : forestOfSource marker first = .ok firstForest)
    (readSecond : forestOfSource marker second = .ok secondForest) :
    (forestOfSource marker (first ++ second)).map Node.unplacedAll =
      .ok (Node.unplacedAll (firstForest ++ secondForest)) := by
  have bareFirst := congrArg (Except.map Node.unplacedAll) readFirst
  have bareSecond := congrArg (Except.map Node.unplacedAll) readSecond
  obtain ⟨firstTokens, firstNodes, readsFirst, spellsFirst, sameFirst⟩ :=
    forestOfSource_map_eq_ok_iff.mp bareFirst
  obtain ⟨secondTokens, secondNodes, readsSecond, spellsSecond, sameSecond⟩ :=
    forestOfSource_map_eq_ok_iff.mp bareSecond
  obtain ⟨joined, reads, joins⟩ := readsFirst.exists_joined readsSecond
  obtain ⟨tokens, rfl, spells⟩ := joins.exists_spelled spellsFirst spellsSecond
  rw [forestOfSource_map_eq_ok_iff, String.toList_append]
  refine ⟨tokens, firstNodes ++ secondNodes, reads, spells, ?_⟩
  rw [Node.unplacedAll_append, Node.unplacedAll_append, sameFirst, sameSecond]

/-- Blanks at the end of one source and at the beginning of the next, written as references. -/
theorem forestOfSource_append_blanks :
    forestOfSource ':' "<a/> &#32;" = .ok [{ name := "a", position := ⟨1, 1⟩ }] ∧
      forestOfSource ':' "&#x20;<!-- --> <b/>" = .ok [{ name := "b", position := ⟨1, 16⟩ }] ∧
        (forestOfSource ':' ("<a/> &#32;" ++ "&#x20;<!-- --> <b/>")).map Node.unplacedAll =
          .ok [{ name := "a" }, { name := "b" }] := by
  have first :
      forestOfSource ':' "<a/> &#32;" = .ok [{ name := "a", position := ⟨1, 1⟩ }] := by
    decide +kernel
  have second :
      forestOfSource ':' "&#x20;<!-- --> <b/>" =
        .ok [{ name := "b", position := ⟨1, 16⟩ }] := by
    decide +kernel
  exact ⟨first, second, forestOfSource_append ':' first second⟩

end WidgetMarkup.Markup
