import WidgetMarkup.Proofs.Markup.RenderedTokens

namespace WidgetMarkup.Markup

/-!
# Reading in longer sources

A reader that succeeds takes the same piece of markup wherever it stands and whatever follows, as
long as the piece does not reach up to the end of the source: a name, a value without quotes and a
text go on with what follows. A tag ends with its bracket, so that it is read the same in any case.
-/

namespace Cursor

/-- Whether one cursor has the rest of another and some more behind it. -/
def Continues (longer shorter : Cursor) (more : List Char) : Prop :=
  longer.rest = shorter.rest ++ more

/-- Skipping leaves nothing that was not there. -/
theorem subset_skip
    (cursor : Cursor)
    (count : Nat) :
    (cursor.skip count).rest ⊆ cursor.rest :=
  List.drop_subset _ _

/-- What is left behind a run. -/
theorem rest_skipRun
    (cursor : Cursor)
    (test : Char → Bool) :
    (cursor.skipRun test).rest = cursor.rest.dropWhile test := by
  have dropped :
      (cursor.rest.takeWhile test ++ cursor.rest.dropWhile test).drop
          (cursor.rest.takeWhile test).length =
        cursor.rest.dropWhile test :=
    List.drop_left
  rwa [List.takeWhile_append_dropWhile] at dropped

namespace Continues

variable {longer shorter : Cursor} {more : List Char} {test : Char → Bool}

/-- Skipping characters that both have keeps what is behind. -/
theorem skip
    (continues : longer.Continues shorter more)
    {count : Nat}
    (enough : count ≤ shorter.rest.length) :
    (longer.skip count).Continues (shorter.skip count) more := by
  unfold Continues at continues ⊢
  simp only [Cursor.skip, continues, List.drop_append_of_le_length enough]

theorem skip_one
    (continues : longer.Continues shorter more)
    (nonempty : shorter.rest ≠ []) :
    (longer.skip 1).Continues (shorter.skip 1) more :=
  continues.skip (List.length_pos_iff.mpr nonempty)

/-- The longer rest begins with what the shorter one begins with. -/
theorem rest_cons
    (continues : longer.Continues shorter more)
    {first : Char}
    {rest : List Char}
    (shape : shorter.rest = first :: rest) :
    longer.rest = first :: (rest ++ more) := by
  rw [continues, shape, List.cons_append]

/-- A character that the shorter rest has is next in both. -/
theorem next?
    (continues : longer.Continues shorter more)
    (nonempty : shorter.rest ≠ []) :
    longer.next? = shorter.next? := by
  unfold Continues at continues
  rw [Cursor.next?, Cursor.next?, continues, List.head?_append_of_ne_nil _ nonempty]

/-- A run that does not reach up to the end, unless nothing is behind, is the same in both. -/
theorem run
    (continues : longer.Continues shorter more)
    (settled : (shorter.skipRun test).rest = [] → more = []) :
    longer.run test = shorter.run test := by
  unfold Continues at continues
  rw [rest_skipRun] at settled
  rw [Cursor.run, Cursor.run, continues, List.takeWhile_append]
  split
  · rename_i whole
    have nothingLeft : shorter.rest.dropWhile test = [] := by
      rw [← List.length_eq_zero_iff]
      have parts := congrArg List.length
        (List.takeWhile_append_dropWhile (p := test) (l := shorter.rest))
      rw [List.length_append] at parts
      omega
    rw [settled nothingLeft, List.takeWhile_nil, List.append_nil]
    exact (List.takeWhile_prefix test).eq_of_length whole |>.symm
  · rfl

theorem skipRun
    (continues : longer.Continues shorter more)
    (settled : (shorter.skipRun test).rest = [] → more = []) :
    (longer.skipRun test).Continues (shorter.skipRun test) more := by
  rw [Cursor.skipRun, Cursor.skipRun, continues.run settled]
  exact continues.skip (List.takeWhile_prefix test).length_le

theorem skipBlanks
    (continues : longer.Continues shorter more)
    (settled : shorter.skipBlanks.rest = [] → more = []) :
    longer.skipBlanks.Continues shorter.skipBlanks more :=
  continues.skipRun settled

end Continues

/-- A cursor at the end of a source stays there. -/
theorem rest_skipBlanks_of_nil
    {cursor : Cursor}
    (atEnd : cursor.rest = []) :
    cursor.skipBlanks.rest = [] := by
  rw [skipBlanks, rest_skipRun, atEnd, List.dropWhile_nil]

end Cursor

/-- Whether a reader takes something and leaves what is left behind it in a shorter source, with
some more behind that. -/
def TakesOn
    {α : Type}
    (outcome : Except Fault (α × Cursor))
    (taken : α)
    (after : Cursor)
    (more : List Char) :
    Prop :=
  ∃ after', outcome = .ok (taken, after') ∧ after'.Continues after more

section Readers

variable {marker : Char} {longer shorter after : Cursor} {more : List Char}

theorem skipMarker_continues
    (continues : longer.Continues shorter more)
    (nonempty : shorter.rest ≠ []) :
    (skipMarker marker longer).Continues (skipMarker marker shorter) more := by
  unfold skipMarker
  rw [continues.next? nonempty]
  split
  · exact continues.skip_one nonempty
  · exact continues

/-- No name of a tag is read at the end of a source. -/
theorem ne_nil_of_readTagName
    {tag : TagName}
    (read : readTagName marker shorter = .ok (tag, after)) :
    shorter.rest ≠ [] := by
  intro atEnd
  have isError : (shorter.skip 1).rest = [] := by simp [Cursor.skip, atEnd]
  unfold readTagName skipMarker at read
  split at read <;> simp [Cursor.run, atEnd, isError] at read

theorem readTagName_continues
    {tag : TagName}
    (read : readTagName marker shorter = .ok (tag, after))
    (continues : longer.Continues shorter more)
    (settled : after.rest = [] → more = []) :
    TakesOn (readTagName marker longer) tag after more := by
  have nonempty := ne_nil_of_readTagName read
  have beginning : (skipMarker marker longer).Continues (skipMarker marker shorter) more :=
    skipMarker_continues continues nonempty
  unfold readTagName at read ⊢
  simp only at read ⊢
  split at read
  · cases read
  · rename_i notEmpty
    cases read
    rw [beginning.run settled, if_neg notEmpty, continues.next? nonempty]
    exact ⟨_, rfl, beginning.skipRun settled⟩

/-- A closing tag is read the same whatever follows it. -/
theorem readClosingTag_continues
    {token : Token}
    (read : readClosingTag marker shorter = .ok (token, after))
    (continues : longer.Continues shorter more) :
    TakesOn (readClosingTag marker longer) token after more := by
  simp only [readClosingTag, bind, Except.bind] at read ⊢
  split at read
  · cases read
  · rename_i result readName
    split at read
    · rename_i ends
      cases read
      have nonempty : result.2.skipBlanks.rest ≠ [] := by
        intro atEnd
        simp [Cursor.next?, atEnd] at ends
      obtain ⟨afterName, readLonger, behindName⟩ :=
        readTagName_continues readName continues fun atEnd =>
          absurd (Cursor.rest_skipBlanks_of_nil atEnd) nonempty
      have behindBlanks := behindName.skipBlanks fun atEnd => absurd atEnd nonempty
      rw [readLonger]
      simp only [behindBlanks.next? nonempty, ends]
      exact ⟨_, rfl, behindBlanks.skip_one nonempty⟩
    · cases read

/-- The end of a tag is one whatever follows it. -/
theorem atTagEnd_append
    {characters : List Char}
    (isEnd : atTagEnd characters = true)
    (more : List Char) :
    atTagEnd (characters ++ more) = true := by
  simp only [atTagEnd, Bool.or_eq_true, List.isPrefixOf_iff_prefix] at isEnd ⊢
  exact isEnd.imp (·.trans (List.prefix_append _ _)) (·.trans (List.prefix_append _ _))

/-- Whether a tag ends is told by two characters. -/
theorem atTagEnd_of_two
    (first second : Char)
    (rest rest' : List Char) :
    atTagEnd (first :: second :: rest) = atTagEnd (first :: second :: rest') := by
  simp [atTagEnd, List.isPrefixOf]

/-- A value without quotes that ends before the source does is the same with more behind. -/
theorem unquotedValue_append
    {characters more : List Char}
    (settled : characters.drop (unquotedValue characters).length = [] → more = []) :
    unquotedValue (characters ++ more) = unquotedValue characters := by
  by_cases nothingMore : more = []
  · rw [nothingMore, List.append_nil]
  induction characters with
  | nil =>
      exact absurd (settled rfl) nothingMore
  | cons first rest inductionHypothesis =>
      by_cases stops : (Text.isBlank first || atTagEnd (first :: rest)) = true
      · have stopsLonger :
            (Text.isBlank first || atTagEnd (first :: (rest ++ more))) = true := by
          rw [Bool.or_eq_true] at stops ⊢
          exact stops.imp_right fun isEnd => atTagEnd_append isEnd more
        rw [List.cons_append, unquotedValue, unquotedValue, if_pos stops, if_pos stopsLonger]
      · have settledRest : rest.drop (unquotedValue rest).length = [] → more = [] := by
          simpa [unquotedValue, stops] using settled
        cases rest with
        | nil =>
            exact absurd (settledRest rfl) nothingMore
        | cons second others =>
            have goesOn :
                ¬(Text.isBlank first || atTagEnd (first :: (second :: others ++ more))) = true := by
              rwa [List.cons_append, atTagEnd_of_two first second _ others]
            rw [List.cons_append, unquotedValue, if_neg goesOn, inductionHypothesis settledRest]
            conv_rhs => rw [unquotedValue, if_neg stops]

theorem length_unquotedValue_le
    (characters : List Char) :
    (unquotedValue characters).length ≤ characters.length := by
  induction characters with
  | nil =>
      exact Nat.le_refl _
  | cons first rest inductionHypothesis =>
      rw [unquotedValue]
      split
      · exact Nat.zero_le _
      · exact Nat.succ_le_succ inductionHypothesis

/-- A value is read the same with more behind it, if it does not reach up to the end. -/
theorem readValue_continues
    {name value : String}
    (read : readValue name shorter = .ok (value, after))
    (continues : longer.Continues shorter more)
    (settled : after.rest = [] → more = []) :
    TakesOn (readValue name longer) value after more := by
  unfold readValue at read ⊢
  split at read
  · cases read
  · rename_i first rest shape
    have nonempty : shorter.rest ≠ [] := by simp [shape]
    rw [continues.rest_cons shape]
    simp only at read ⊢
    split at read
    · rename_i isQuote
      have inside := continues.skip_one nonempty
      split at read
      · cases read
      · rename_i closes
        cases read
        rw [List.isEmpty_iff] at closes
        have closing := inside.skipRun fun atEnd => absurd atEnd closes
        have closesLonger : ¬ ((longer.skip 1).skipRun (· != first)).rest.isEmpty = true := by
          rw [List.isEmpty_iff, closing]
          exact fun empty => closes (List.append_eq_nil_iff.mp empty).1
        rw [if_pos isQuote, if_neg closesLonger, inside.run fun atEnd => absurd atEnd closes]
        exact ⟨_, rfl, closing.skip_one closes⟩
    · rename_i notQuote
      split at read
      · cases read
      · rename_i notEmpty
        cases read
        have same : unquotedValue (first :: (rest ++ more)) = unquotedValue shorter.rest := by
          rw [← List.cons_append, ← shape]
          exact unquotedValue_append settled
        rw [if_neg notQuote, same, if_neg notEmpty]
        exact ⟨_, rfl, continues.skip (length_unquotedValue_le _)⟩

theorem readAttribute_continues
    {entry : Attribute}
    (read : readAttribute shorter = .ok (entry, after))
    (continues : longer.Continues shorter more)
    (settled : after.rest = [] → more = []) :
    TakesOn (readAttribute longer) entry after more := by
  unfold readAttribute at read ⊢
  simp only at read ⊢
  split at read
  · cases read
  · rename_i notEmpty
    have settledName
        (behindName : ((shorter.skipRun isAttributeNameCharacter).skipBlanks).rest = [] →
          more = []) :
        (shorter.skipRun isAttributeNameCharacter).rest = [] → more = [] :=
      fun atEnd => behindName (Cursor.rest_skipBlanks_of_nil atEnd)
    split at read
    · rename_i hasSign
      have nonempty : ((shorter.skipRun isAttributeNameCharacter).skipBlanks).rest ≠ [] := by
        intro atEnd
        simp [Cursor.next?, atEnd] at hasSign
      have settledBlanks :
          ((shorter.skipRun isAttributeNameCharacter).skipBlanks).rest = [] → more = [] :=
        fun atEnd => absurd atEnd nonempty
      have behindName :=
        (continues.skipRun (settledName settledBlanks)).skipBlanks settledBlanks
      split at read
      · rename_i value behindValue readTheValue
        cases read
        have gap := behindName.skip_one nonempty
        have nonemptyValue :
            (((shorter.skipRun isAttributeNameCharacter).skipBlanks).skip 1).skipBlanks.rest ≠
              [] := by
          intro atEnd
          simp [readValue, atEnd] at readTheValue
        obtain ⟨afterValue, readLonger, behind⟩ :=
          readValue_continues readTheValue
            (gap.skipBlanks fun atEnd => absurd atEnd nonemptyValue) settled
        rw [continues.run (settledName settledBlanks), if_neg notEmpty,
          behindName.next? nonempty, if_pos hasSign, readLonger]
        exact ⟨_, rfl, behind⟩
      · cases read
    · rename_i noSign
      cases read
      have behindName := (continues.skipRun (settledName settled)).skipBlanks settled
      have noSignLonger :
          ¬ (longer.skipRun isAttributeNameCharacter).skipBlanks.next? = some '=' := by
        by_cases atEnd : ((shorter.skipRun isAttributeNameCharacter).skipBlanks).rest = []
        · unfold Cursor.Continues at behindName
          simp [Cursor.next?, behindName, atEnd, settled atEnd]
        · rwa [behindName.next? atEnd]
      rw [continues.run (settledName settled), if_neg notEmpty, if_neg noSignLonger]
      exact ⟨_, rfl, behindName⟩

theorem subset_of_readTagName
    {tag : TagName}
    (read : readTagName marker shorter = .ok (tag, after)) :
    after.rest ⊆ shorter.rest := by
  have isMarkerOrNone : (skipMarker marker shorter).rest ⊆ shorter.rest := by
    unfold skipMarker
    split
    · exact shorter.subset_skip 1
    · exact List.Subset.refl _
  unfold readTagName at read
  simp only at read
  split at read
  · cases read
  · cases read
    exact List.Subset.trans (Cursor.subset_skip _ _) isMarkerOrNone

theorem subset_of_readValue
    {name value : String}
    (read : readValue name shorter = .ok (value, after)) :
    after.rest ⊆ shorter.rest := by
  unfold readValue at read
  split at read
  · cases read
  · simp only at read
    split at read
    · split at read
      · cases read
      · cases read
        exact List.Subset.trans (Cursor.subset_skip _ _)
          (List.Subset.trans (Cursor.subset_skip _ _) (Cursor.subset_skip _ _))
    · split at read
      · cases read
      · cases read
        exact Cursor.subset_skip _ _

theorem subset_of_readAttribute
    {entry : Attribute}
    (read : readAttribute shorter = .ok (entry, after)) :
    after.rest ⊆ shorter.rest := by
  have behindName :
      (shorter.skipRun isAttributeNameCharacter).skipBlanks.rest ⊆ shorter.rest :=
    List.Subset.trans (Cursor.subset_skip _ _) (Cursor.subset_skip _ _)
  unfold readAttribute at read
  simp only at read
  split at read
  · cases read
  · split at read
    · split at read
      · rename_i readTheValue
        cases read
        exact List.Subset.trans (subset_of_readValue readTheValue)
          (List.Subset.trans (Cursor.subset_skip _ _)
            (List.Subset.trans (Cursor.subset_skip _ _) behindName))
      · cases read
    · cases read
      exact behindName

/-- Every tag has a bracket at its end. -/
theorem bracket_mem_of_readTagBody
    {name : String}
    {body : TagBody}
    (read : readTagBody name shorter = .ok (body, after)) :
    '>' ∈ shorter.rest := by
  fun_induction readTagBody name shorter generalizing body after with
  | case1 => cases read
  | case2 start cursor rest =>
      rename_i shape
      exact start.subset_skip _ (show '>' ∈ cursor.rest by simp [shape])
  | case3 start cursor rest shape =>
      rename_i afterSlash isEnd
      have isLeft : '>' ∈ afterSlash.rest := List.mem_of_head? isEnd
      exact start.subset_skip _ (cursor.subset_skip _ isLeft)
  | case4 => cases read
  | case5 => cases read
  | case6 => cases read
  | case7 start cursor entry afterEntry readEntry body' after' readRest =>
      rename_i inductionHypothesis
      exact start.subset_skip _
        (subset_of_readAttribute readEntry (inductionHypothesis readRest))

/-- What a tag holds is read the same whatever follows the tag. -/
theorem readTagBody_continues
    {name : String}
    {body : TagBody}
    (read : readTagBody name shorter = .ok (body, after))
    (continues : longer.Continues shorter more) :
    TakesOn (readTagBody name longer) body after more := by
  fun_induction readTagBody name shorter generalizing longer body after with
  | case1 => cases read
  | case2 start cursor rest =>
      rename_i shape
      cases read
      have nonempty : cursor.rest ≠ [] := by simp [shape]
      have behind := continues.skipBlanks fun atEnd => absurd atEnd nonempty
      rw [readTagBody, behind.rest_cons shape]
      exact ⟨_, rfl, behind.skip_one nonempty⟩
  | case3 start cursor rest shape =>
      rename_i afterSlash isEnd
      cases read
      have nonempty : cursor.rest ≠ [] := by simp [shape]
      have nonemptySlash : afterSlash.rest ≠ [] := by
        intro atEnd
        simp [Cursor.next?, atEnd] at isEnd
      have behind := continues.skipBlanks fun atEnd => absurd atEnd nonempty
      have behindSlash := behind.skip_one nonempty
      rw [readTagBody, behind.rest_cons shape]
      simp only
      rw [if_pos ((behindSlash.next? nonemptySlash).trans isEnd)]
      exact ⟨_, rfl, behindSlash.skip_one nonemptySlash⟩
  | case4 => cases read
  | case5 => cases read
  | case6 => cases read
  | case7 start cursor entry afterEntry readEntry body' after' readRest =>
      rename_i notEnd notBracket notSlash inductionHypothesis
      cases read
      obtain ⟨first, rest, shape⟩ := List.exists_cons_of_ne_nil notEnd
      have behind := continues.skipBlanks fun atEnd => absurd atEnd notEnd
      obtain ⟨_, readLonger, behindEntry⟩ :=
        readAttribute_continues readEntry behind fun atEnd =>
          absurd atEnd (List.ne_nil_of_mem (bracket_mem_of_readTagBody readRest))
      obtain ⟨afterLonger, readRestLonger, behindTag⟩ :=
        inductionHypothesis readRest behindEntry
      refine ⟨afterLonger, ?_, behindTag⟩
      refine readTagBody_cons (behind.rest_cons shape) ?_ ?_ readLonger readRestLonger
      · rintro rfl
        exact notBracket rest shape
      · rintro rfl
        exact notSlash rest shape

theorem readOpeningTag_continues
    {token : Token}
    (read : readOpeningTag marker shorter = .ok (token, after))
    (continues : longer.Continues shorter more) :
    TakesOn (readOpeningTag marker longer) token after more := by
  simp only [readOpeningTag, bind, Except.bind] at read ⊢
  split at read
  · cases read
  · rename_i result readName
    split at read
    · cases read
    · rename_i bodyResult readBody
      cases read
      obtain ⟨afterName, readLonger, behindName⟩ :=
        readTagName_continues readName continues fun atEnd =>
          absurd atEnd (List.ne_nil_of_mem (bracket_mem_of_readTagBody readBody))
      obtain ⟨_, readBodyLonger, behind⟩ := readTagBody_continues readBody behindName
      simp only [readLonger, readBodyLonger]
      exact ⟨_, rfl, behind⟩

end Readers

/-- Whether a token is a tag. -/
def Token.isTag : Token → Bool
  | .opening _ _ _ _ | .closing _ _ => true
  | .text _ | .endOfSource => false

section Tokens

variable {marker : Char} {longer shorter after : Cursor} {more : List Char} {token : Token}

/-- A tag is read the same whatever follows it, any other token if it does not reach up to the
end. -/
theorem readToken_continues
    (read : readToken marker shorter = .ok (token, after))
    (continues : longer.Continues shorter more)
    (settled : token.isTag = false → after.rest = [] → more = []) :
    TakesOn (readToken marker longer) token after more := by
  unfold readToken at read
  split at read
  · rename_i atEnd
    cases read
    obtain rfl := settled rfl atEnd
    have atEndLonger : longer.rest = [] := by
      rw [continues, atEnd, List.append_nil]
    rw [readToken, atEndLonger]
    exact ⟨_, rfl, continues⟩
  · rename_i rest shape
    have shapeLonger : longer.rest = '<' :: '/' :: (rest ++ more) := continues.rest_cons shape
    rw [readToken, shapeLonger]
    exact readClosingTag_continues read (continues.skip (by simp [shape]))
  · rename_i rest notSlash shape
    have nonempty : rest ≠ [] := by
      rintro rfl
      obtain ⟨_, readName⟩ : ∃ result, readTagName marker (shorter.skip 1) = .ok result := by
        simp only [readOpeningTag, bind, Except.bind] at read
        split at read
        · cases read
        · exact ⟨_, by assumption⟩
      exact ne_nil_of_readTagName readName (by simp [Cursor.skip, shape])
    obtain ⟨first, others, rfl⟩ := List.exists_cons_of_ne_nil nonempty
    have isOpening : first ≠ '/' := by
      rintro rfl
      exact notSlash others rfl
    obtain ⟨position, rest⟩ := longer
    obtain rfl : rest = '<' :: first :: (others ++ more) := continues.rest_cons shape
    rw [readToken_opening isOpening]
    exact readOpeningTag_continues read (continues.skip_one (by simp [shape]))
  · rename_i notEnd _ notBracket
    cases read
    obtain ⟨first, others, shape⟩ := List.exists_cons_of_ne_nil notEnd
    have isText : first ≠ '<' := by
      rintro rfl
      exact notBracket others shape
    have nowSettled := settled rfl
    obtain ⟨position, rest⟩ := longer
    obtain rfl : rest = first :: (others ++ more) := continues.rest_cons shape
    rw [readToken_text isText, continues.run nowSettled]
    exact ⟨_, rfl, continues.skipRun nowSettled⟩

/-- A token is the end of the source, or a tag with a bracket at its end, or a text. -/
theorem readToken_cases
    (read : readToken marker shorter = .ok (token, after)) :
    token = .endOfSource ∧ shorter.rest = [] ∧ after = shorter ∨
      token.isTag = true ∧ '>' ∈ shorter.rest ∨
        ∃ first others,
          shorter.rest = first :: others ∧
            first ≠ '<' ∧
              token = .text (String.ofList (decodeCharacters (shorter.run isTextCharacter))) ∧
                after = shorter.skipRun isTextCharacter := by
  unfold readToken at read
  split at read
  · rename_i atEnd
    cases read
    exact .inl ⟨rfl, atEnd, rfl⟩
  · simp only [readClosingTag, bind, Except.bind] at read
    split at read
    · cases read
    · rename_i result readName
      split at read
      · rename_i ends
        cases read
        have isLeft : '>' ∈ result.2.skipBlanks.rest := List.mem_of_head? ends
        have isAhead := subset_of_readTagName readName (Cursor.subset_skip _ _ isLeft)
        exact .inr (.inl ⟨rfl, Cursor.subset_skip _ _ isAhead⟩)
      · cases read
  · simp only [readOpeningTag, bind, Except.bind] at read
    split at read
    · cases read
    · rename_i result readName
      split at read
      · cases read
      · rename_i bodyResult readBody
        cases read
        have isAhead := subset_of_readTagName readName (bracket_mem_of_readTagBody readBody)
        exact .inr (.inl ⟨rfl, Cursor.subset_skip _ _ isAhead⟩)
  · rename_i notEnd _ notBracket
    cases read
    obtain ⟨first, others, shape⟩ := List.exists_cons_of_ne_nil notEnd
    refine .inr (.inr ⟨first, others, shape, ?_, rfl, rfl⟩)
    rintro rfl
    exact notBracket others shape

end Tokens

section Ignored

variable {longer shorter after : Cursor} {more : List Char}

/-- An ending that is found lies within the characters. -/
theorem countPast?_bounds
    {ending characters : List Char}
    {count : Nat}
    (found : countPast? ending characters = some count) :
    ending.length ≤ count ∧ count ≤ characters.length := by
  induction characters generalizing count with
  | nil =>
      simp [countPast?] at found
  | cons character rest inductionHypothesis =>
      unfold countPast? at found
      split at found
      · rename_i isHere
        cases found
        exact ⟨Nat.le_refl _, (List.isPrefixOf_iff_prefix.mp isHere).length_le⟩
      · obtain ⟨fewer, foundRest, rfl⟩ := Option.map_eq_some_iff.mp found
        have bounds := inductionHypothesis foundRest
        rw [List.length_cons]
        omega

/-- An ending that is found is found in the same place with more behind. -/
theorem countPast?_append
    {ending characters : List Char}
    {count : Nat}
    (found : countPast? ending characters = some count)
    (more : List Char) :
    countPast? ending (characters ++ more) = some count := by
  induction characters generalizing count with
  | nil =>
      simp [countPast?] at found
  | cons character rest inductionHypothesis =>
      rw [List.cons_append]
      unfold countPast? at found ⊢
      split at found
      · rename_i isHere
        rw [List.isPrefixOf_iff_prefix] at isHere
        rw [if_pos]
        · exact found
        · exact List.isPrefixOf_iff_prefix.mpr (isHere.trans (List.prefix_append _ _))
      · rename_i notHere
        obtain ⟨fewer, foundRest, rfl⟩ := Option.map_eq_some_iff.mp found
        have bounds := countPast?_bounds foundRest
        rw [if_neg, inductionHypothesis foundRest, Option.map_some]
        rw [List.isPrefixOf_iff_prefix] at notHere ⊢
        intro isHere
        refine notHere (List.prefix_of_prefix_length_le isHere (List.prefix_append _ more) ?_)
        rw [List.length_cons]
        omega

theorem startsWith_continues
    {opening : List Char}
    (starts : shorter.startsWith opening = true)
    (continues : longer.Continues shorter more) :
    longer.startsWith opening = true := by
  unfold Cursor.Continues at continues
  rw [Cursor.startsWith, List.isPrefixOf_iff_prefix] at starts ⊢
  rw [continues]
  exact starts.trans (List.prefix_append _ _)

/-- A comment is passed over up to the first place where it can end. -/
theorem skipIgnored_comment
    {cursor : Cursor}
    {count : Nat}
    (isComment : cursor.startsWith commentOpening = true)
    (found : countPast? commentEnding cursor.rest = some count) :
    skipIgnored cursor = skipIgnored (cursor.skip count) := by
  rw [skipIgnored, if_pos isComment]
  split
  · rename_i count' found'
    rw [Option.some.inj (found'.symm.trans found)]
  · rename_i notFound
    simp [found] at notFound

theorem skipIgnored_instruction
    {cursor : Cursor}
    {count : Nat}
    (notComment : ¬ cursor.startsWith commentOpening = true)
    (isInstruction : cursor.startsWith instructionOpening = true)
    (found : countPast? instructionEnding cursor.rest = some count) :
    skipIgnored cursor = skipIgnored (cursor.skip count) := by
  rw [skipIgnored, if_neg notComment, if_pos isInstruction]
  split
  · rename_i count' found'
    rw [Option.some.inj (found'.symm.trans found)]
  · rename_i notFound
    simp [found] at notFound

/-- No instruction is a comment. -/
theorem not_startsWith_comment
    {cursor : Cursor}
    (isInstruction : cursor.startsWith instructionOpening = true) :
    ¬ cursor.startsWith commentOpening = true := by
  rw [Cursor.startsWith, List.isPrefixOf_iff_prefix] at isInstruction ⊢
  obtain ⟨rest, shape⟩ := isInstruction
  rintro ⟨rest', shape'⟩
  rw [← shape] at shape'
  simp [commentOpening, instructionOpening] at shape'

/-- What is passed over in a source is passed over with more behind. -/
theorem skipIgnored_continues
    (skipped : skipIgnored shorter = .ok after)
    (continues : longer.Continues shorter more) :
    ∃ position, skipIgnored longer = skipIgnored ⟨position, after.rest ++ more⟩ := by
  fun_induction skipIgnored shorter generalizing longer with
  | case1 cursor isComment count found inductionHypothesis =>
      have foundLonger : countPast? commentEnding longer.rest = some count := by
        rw [continues]
        exact countPast?_append found more
      rw [skipIgnored_comment (startsWith_continues isComment continues) foundLonger]
      exact inductionHypothesis skipped (continues.skip (countPast?_bounds found).2)
  | case2 => cases skipped
  | case3 cursor _ isInstruction count found inductionHypothesis =>
      have foundLonger : countPast? instructionEnding longer.rest = some count := by
        rw [continues]
        exact countPast?_append found more
      have isInstructionLonger := startsWith_continues isInstruction continues
      rw [skipIgnored_instruction (not_startsWith_comment isInstructionLonger)
        isInstructionLonger foundLonger]
      exact inductionHypothesis skipped (continues.skip (countPast?_bounds found).2)
  | case4 => cases skipped
  | case5 cursor notComment notInstruction =>
      cases skipped
      exact ⟨longer.position, by rw [← continues]⟩

/-- Nothing that could be passed over is left. -/
theorem not_startsWith_of_skipIgnored
    (skipped : skipIgnored shorter = .ok after) :
    ¬ after.startsWith commentOpening = true ∧ ¬ after.startsWith instructionOpening = true := by
  fun_induction skipIgnored shorter with
  | case1 _ _ _ _ inductionHypothesis => exact inductionHypothesis skipped
  | case2 => cases skipped
  | case3 _ _ _ _ _ inductionHypothesis => exact inductionHypothesis skipped
  | case4 => cases skipped
  | case5 cursor notComment notInstruction =>
      cases skipped
      exact ⟨notComment, notInstruction⟩

/-- Where some character does not belong to an opening, the opening does not reach any further. -/
theorem startsWith_of_mem
    {opening : List Char}
    {position : Position}
    {character : Char}
    (starts : (⟨position, shorter.rest ++ more⟩ : Cursor).startsWith opening = true)
    (isThere : character ∈ shorter.rest)
    (isOther : character ∉ opening) :
    shorter.startsWith opening = true := by
  rw [Cursor.startsWith, List.isPrefixOf_iff_prefix] at starts ⊢
  refine (List.prefix_or_prefix_of_prefix starts (List.prefix_append _ _)).resolve_right ?_
  exact fun shorterFirst => isOther (shorterFirst.subset isThere)

variable {marker : Char} {token : Token}

/-- A token is read the same with more behind it, a text if it does not reach up to the end. -/
theorem readNext_continues
    (read : readNext marker shorter = .ok (token, after))
    (notEnd : token ≠ .endOfSource)
    (continues : longer.Continues shorter more)
    (settled : token.isTag = false → after.rest = [] → more = []) :
    TakesOn (readNext marker longer) token after more := by
  unfold readNext at read ⊢
  split at read
  · rename_i beginning skipped
    obtain ⟨position, same⟩ := skipIgnored_continues skipped continues
    have noMoreIgnored :
        skipIgnored ⟨position, beginning.rest ++ more⟩ =
          .ok ⟨position, beginning.rest ++ more⟩ := by
      obtain ⟨isEnd, -⟩ | ⟨-, isThere⟩ | ⟨first, others, shape, notBracket, -⟩ :=
        readToken_cases read
      · exact absurd isEnd notEnd
      · obtain ⟨notComment, notInstruction⟩ := not_startsWith_of_skipIgnored skipped
        rw [skipIgnored, if_neg, if_neg]
        · exact fun starts => notInstruction (startsWith_of_mem starts isThere (by decide))
        · exact fun starts => notComment (startsWith_of_mem starts isThere (by decide))
      · rw [shape, List.cons_append, skipIgnored_of_text notBracket]
    rw [same, noMoreIgnored]
    exact readToken_continues read rfl settled
  · cases read

/-- Behind a source that holds no more token, one goes on as if that source were not there. -/
theorem readNext_continues_of_end
    (read : readNext marker shorter = .ok (.endOfSource, after))
    (continues : longer.Continues shorter more) :
    ∃ position, readNext marker longer = readNext marker ⟨position, more⟩ := by
  unfold readNext at read ⊢
  split at read
  · rename_i beginning skipped
    obtain ⟨position, same⟩ := skipIgnored_continues skipped continues
    obtain ⟨-, atEnd, -⟩ | ⟨isTag, -⟩ | ⟨_, _, _, _, isText, -⟩ := readToken_cases read
    · rw [atEnd, List.nil_append] at same
      exact ⟨position, by rw [same]⟩
    · cases isTag
    · cases isText
  · cases read

end Ignored

end WidgetMarkup.Markup
