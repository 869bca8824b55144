import WidgetMarkup.Proofs.Markup.NodePlaces

namespace WidgetMarkup.Markup

/-!
# Places in a source

Every place that reading leaves behind is that of an offset in the source, whether reading succeeds
or fails. The offsets of tokens increase, as each token but the last takes at least one character,
and the end of the source is the last token and no other. Faults in the nesting of tags are noticed
where one of the tokens begins.
-/

/-- The place behind a number of characters of a source. -/
def placeAt (characters : List Char) (offset : Nat) : Position :=
  placeBehind (characters.take offset)

theorem placeAt_length
    (before rest : List Char) :
    placeAt (before ++ rest) before.length = placeBehind before := by
  rw [placeAt, List.take_left]

/-- Numbers of characters behind which tokens begin, in the order of the tokens. -/
structure AreOffsets
    (characters : List Char)
    (tokens : List PlacedToken)
    (offsets : List Nat) : Prop where
  places :
    tokens.map PlacedToken.position = offsets.map (placeAt characters)
  increase :
    offsets.Pairwise (· < ·)
  within :
    ∀ offset ∈ offsets, offset ≤ characters.length

/-- A token in front of others begins before all of them. -/
theorem AreOffsets.cons
    {before rest : List Char}
    {placed : PlacedToken}
    {tokens : List PlacedToken}
    {offsets : List Nat}
    (areOffsets : AreOffsets (before ++ rest) tokens offsets)
    (isHere : placed.position = placeBehind before)
    (areFurther : ∀ offset ∈ offsets, before.length < offset) :
    AreOffsets (before ++ rest) (placed :: tokens) (before.length :: offsets) where
  places := by
    rw [List.map_cons, List.map_cons, areOffsets.places, isHere, placeAt_length]
  increase := List.pairwise_cons.mpr ⟨areFurther, areOffsets.increase⟩
  within := List.forall_mem_cons.mpr ⟨by simp, areOffsets.within⟩

/-- Whether the last token, and no other, is the end of the source. -/
def EndsOnce (tokens : List PlacedToken) : Prop :=
  ∃ front final,
    tokens = front ++ [final] ∧
      final.token = .endOfSource ∧
        ∀ placed ∈ front, placed.token ≠ .endOfSource

theorem EndsOnce.cons
    {placed : PlacedToken}
    {tokens : List PlacedToken}
    (endsOnce : EndsOnce tokens)
    (notEnd : placed.token ≠ .endOfSource) :
    EndsOnce (placed :: tokens) := by
  obtain ⟨front, final, rfl, isEnd, noneBefore⟩ := endsOnce
  exact ⟨placed :: front, final, rfl, isEnd, List.forall_mem_cons.mpr ⟨notEnd, noneBefore⟩⟩

namespace Cursor

variable {cursor between after : Cursor} {position : Position}

/-- Whether a place is one that a cursor gets to by passing characters. -/
def GetsTo (cursor : Cursor) (position : Position) : Prop :=
  ∃ after, cursor.Reaches after ∧ after.position = position

theorem Reaches.getsTo
    (reaches : cursor.Reaches after) :
    cursor.GetsTo after.position :=
  ⟨after, reaches, rfl⟩

theorem Reaches.getsTo_trans
    (reaches : cursor.Reaches between)
    (getsTo : between.GetsTo position) :
    cursor.GetsTo position := by
  obtain ⟨after, furtherOn, isPlace⟩ := getsTo
  exact ⟨after, reaches.trans furtherOn, isPlace⟩

/-- The places that a cursor gets to are those of offsets in the whole. -/
theorem GetsTo.exists_offset
    {before rest : List Char}
    (getsTo : GetsTo ⟨placeBehind before, rest⟩ position) :
    ∃ offset ≤ (before ++ rest).length, position = placeAt (before ++ rest) offset := by
  obtain ⟨after, ⟨passed, shape, place⟩, rfl⟩ := getsTo
  obtain rfl : rest = passed ++ after.rest := shape
  refine ⟨(before ++ passed).length, by simp, ?_⟩
  rw [place, ← List.append_assoc, placeAt_length, placeBehind_append]

end Cursor

section Faults

open Cursor (Reaches GetsTo)

variable {marker : Char} {cursor after : Cursor} {fault : Fault}

/-- Passing over comments and instructions passes their characters. -/
theorem reaches_of_skipIgnored
    (skipped : skipIgnored cursor = .ok after) :
    cursor.Reaches after := by
  fun_induction skipIgnored cursor with
  | case1 cursor _ count _ inductionHypothesis =>
      exact ((Reaches.refl cursor).skip count).trans (inductionHypothesis skipped)
  | case2 => cases skipped
  | case3 cursor _ _ count _ inductionHypothesis =>
      exact ((Reaches.refl cursor).skip count).trans (inductionHypothesis skipped)
  | case4 => cases skipped
  | case5 =>
      cases skipped
      exact .refl _

theorem getsTo_of_skipIgnored
    (failed : skipIgnored cursor = .error fault) :
    cursor.GetsTo fault.position := by
  fun_induction skipIgnored cursor with
  | case1 cursor _ count _ inductionHypothesis =>
      exact ((Reaches.refl cursor).skip count).getsTo_trans (inductionHypothesis failed)
  | case2 cursor =>
      cases failed
      exact (Reaches.refl cursor).getsTo
  | case3 cursor _ _ count _ inductionHypothesis =>
      exact ((Reaches.refl cursor).skip count).getsTo_trans (inductionHypothesis failed)
  | case4 cursor =>
      cases failed
      exact (Reaches.refl cursor).getsTo
  | case5 => cases failed

theorem getsTo_of_readTagName
    (failed : readTagName marker cursor = .error fault) :
    cursor.GetsTo fault.position := by
  unfold readTagName at failed
  simp only at failed
  split at failed
  · cases failed
    exact (reaches_skipMarker marker cursor).getsTo
  · cases failed

theorem getsTo_of_readClosingTag
    (failed : readClosingTag marker cursor = .error fault) :
    cursor.GetsTo fault.position := by
  simp only [readClosingTag, bind, Except.bind] at failed
  split at failed
  · rename_i readName
    cases failed
    exact getsTo_of_readTagName readName
  · rename_i result readName
    split at failed
    · cases failed
    · -- The character that does not end the tag is passed before its place is taken.
      cases failed
      exact (((reaches_of_readTagName readName).skip _).skip 1).getsTo

theorem getsTo_of_readValue
    {name : String}
    (failed : readValue name cursor = .error fault) :
    cursor.GetsTo fault.position := by
  have here := (Reaches.refl cursor).getsTo
  unfold readValue at failed
  split at failed
  · cases failed
    exact here
  · simp only at failed
    split at failed
    · split at failed
      · cases failed
        exact here
      · cases failed
    · split at failed
      · cases failed
        exact here
      · cases failed

theorem getsTo_of_readAttribute
    (failed : readAttribute cursor = .error fault) :
    cursor.GetsTo fault.position := by
  unfold readAttribute at failed
  simp only at failed
  split at failed
  · cases failed
    exact (Reaches.refl cursor).getsTo
  · split at failed
    · split at failed
      · cases failed
      · rename_i readTheValue
        cases failed
        have behindSign :
            cursor.Reaches
              ((cursor.skipRun isAttributeNameCharacter).skipBlanks.skip 1).skipBlanks :=
          ((((Reaches.refl cursor).skip _).skip _).skip 1).skip _
        exact behindSign.getsTo_trans (getsTo_of_readValue readTheValue)
    · cases failed

theorem getsTo_of_readTagBody
    {name : String}
    (failed : readTagBody name cursor = .error fault) :
    cursor.GetsTo fault.position := by
  fun_induction readTagBody name cursor with
  | case1 start =>
      cases failed
      exact ((Reaches.refl start).skip _).getsTo
  | case2 => cases failed
  | case3 => cases failed
  | case4 start =>
      cases failed
      exact ((((Reaches.refl start).skip _).skip 1).skip 1).getsTo
  | case5 start cursor fault' readEntry =>
      cases failed
      exact ((Reaches.refl start).skip _).getsTo_trans (getsTo_of_readAttribute readEntry)
  | case6 start cursor entry afterEntry readEntry fault' readRest =>
      rename_i inductionHypothesis
      cases failed
      have behindEntry := ((Reaches.refl start).skip _).trans (reaches_of_readAttribute readEntry)
      exact behindEntry.getsTo_trans (inductionHypothesis readRest)
  | case7 => cases failed

theorem getsTo_of_readOpeningTag
    (failed : readOpeningTag marker cursor = .error fault) :
    cursor.GetsTo fault.position := by
  simp only [readOpeningTag, bind, Except.bind] at failed
  split at failed
  · rename_i readName
    cases failed
    exact getsTo_of_readTagName readName
  · rename_i result readName
    split at failed
    · rename_i readBody
      cases failed
      exact (reaches_of_readTagName readName).getsTo_trans (getsTo_of_readTagBody readBody)
    · cases failed

/-- A fault in a token is noticed at a place that reading the token gets to. -/
theorem getsTo_of_readToken
    (failed : readToken marker cursor = .error fault) :
    cursor.GetsTo fault.position := by
  unfold readToken at failed
  split at failed
  · cases failed
  · exact ((Reaches.refl cursor).skip 2).getsTo_trans (getsTo_of_readClosingTag failed)
  · exact ((Reaches.refl cursor).skip 1).getsTo_trans (getsTo_of_readOpeningTag failed)
  · cases failed

theorem reaches_of_readNext
    {token : Token}
    (read : readNext marker cursor = .ok (token, after)) :
    cursor.Reaches after := by
  unfold readNext at read
  split at read
  · rename_i skipped
    exact (reaches_of_skipIgnored skipped).trans (reaches_of_readToken read)
  · cases read

theorem getsTo_of_readNext
    (failed : readNext marker cursor = .error fault) :
    cursor.GetsTo fault.position := by
  unfold readNext at failed
  split at failed
  · rename_i skipped
    exact (reaches_of_skipIgnored skipped).getsTo_trans (getsTo_of_readToken failed)
  · rename_i skipped
    cases failed
    exact getsTo_of_skipIgnored skipped

/-- A fault in a source is noticed at a place that reading all tokens gets to. -/
theorem getsTo_of_readTokens
    (failed : readTokens marker cursor = .error fault) :
    cursor.GetsTo fault.position := by
  fun_induction readTokens marker cursor with
  | case1 cursor fault' readFault =>
      cases failed
      exact getsTo_of_readNext readFault
  | case2 => cases failed
  | case3 cursor token after read notEnd fault' readRest inductionHypothesis =>
      cases failed
      exact (reaches_of_readNext read).getsTo_trans (inductionHypothesis readRest)
  | case4 => cases failed

end Faults

section Tokens

variable {marker : Char} {tokens : List PlacedToken}

/-- The end of the source is read once, as the last token. -/
theorem endsOnce_of_readTokens
    {cursor : Cursor}
    (read : readTokens marker cursor = .ok tokens) :
    EndsOnce tokens := by
  fun_induction readTokens marker cursor generalizing tokens with
  | case1 => cases read
  | case2 =>
      cases read
      exact ⟨[], _, rfl, rfl, List.forall_mem_nil _⟩
  | case3 => cases read
  | case4 cursor token after _ notEnd tokens' readRest inductionHypothesis =>
      cases read
      exact (inductionHypothesis readRest).cons notEnd

/-- Behind a token, reading goes on further on and in the place of the characters passed. -/
theorem exists_further_of_readNext
    {before rest : List Char}
    {token : Token}
    {after : Cursor}
    (read : readNext marker ⟨placeBehind before, rest⟩ = .ok (token, after))
    (notEnd : token ≠ .endOfSource) :
    ∃ passed behind,
      passed ≠ [] ∧ rest = passed ++ behind ∧ after = ⟨placeBehind (before ++ passed), behind⟩ := by
  obtain ⟨passed, shape, place⟩ := reaches_of_readNext read
  obtain rfl : rest = passed ++ after.rest := shape
  refine ⟨passed, after.rest, ?_, rfl, ?_⟩
  · rintro rfl
    have isShorter := length_readNext_lt read notEnd
    exact Nat.lt_irrefl after.rest.length isShorter
  · rw [placeBehind_append, ← place]

/-- Each token begins further on than the one before it. -/
theorem exists_offsets_of_readTokens
    {before rest : List Char}
    (read : readTokens marker ⟨placeBehind before, rest⟩ = .ok tokens) :
    ∃ offsets,
      AreOffsets (before ++ rest) tokens offsets ∧
        ∀ offset ∈ offsets, before.length ≤ offset := by
  generalize start : (⟨placeBehind before, rest⟩ : Cursor) = cursor at read
  fun_induction readTokens marker cursor generalizing before rest tokens with
  | case1 => cases read
  | case2 =>
      cases read
      cases start
      have noTokens : AreOffsets (before ++ rest) [] [] :=
        ⟨rfl, .nil, List.forall_mem_nil _⟩
      exact ⟨_, noTokens.cons rfl (List.forall_mem_nil _),
        List.forall_mem_singleton.mpr (Nat.le_refl _)⟩
  | case3 => cases read
  | case4 cursor token after readHere notEnd tokens' readRest inductionHypothesis =>
      cases read
      cases start
      obtain ⟨passed, behind, isMore, rfl, rfl⟩ := exists_further_of_readNext readHere notEnd
      obtain ⟨offsets, areOffsets, areBehind⟩ := inductionHypothesis rfl readRest
      have isLess : before.length < (before ++ passed).length := by
        rw [List.length_append]
        exact Nat.lt_add_of_pos_right (List.length_pos_iff.mpr isMore)
      have areFurther (offset : Nat) (member : offset ∈ offsets) : before.length < offset :=
        Nat.lt_of_lt_of_le isLess (areBehind offset member)
      rw [List.append_assoc] at areOffsets
      refine ⟨before.length :: offsets, areOffsets.cons rfl areFurther, ?_⟩
      exact List.forall_mem_cons.mpr
        ⟨Nat.le_refl _, fun offset member => Nat.le_of_lt (areFurther offset member)⟩

end Tokens

namespace Nesting

variable {nesting next : Nesting} {placed : PlacedToken} {fault : Fault}

/-- The places of the tags that are open. -/
def places (nesting : Nesting) : List Position :=
  nesting.openTags.map OpenTag.position

theorem places_place
    (nesting : Nesting)
    (node : Node) :
    (nesting.place node).places = nesting.places := by
  unfold place
  split
  · rfl
  · rename_i isOpen
    rw [places, places, isOpen]
    rfl

/-- A token opens a tag in its own place and no other. -/
theorem places_of_take
    (taken : nesting.take placed = .ok next) :
    next.places ⊆ placed.position :: nesting.places := by
  unfold take at taken
  split at taken
  · cases taken
    exact List.subset_cons_self _ _
  · unfold takeText at taken
    split at taken
    · split at taken
      · cases taken
        exact List.subset_cons_self _ _
      · cases taken
    · rename_i isOpen
      cases taken
      rw [places, places, isOpen]
      exact List.subset_cons_self _ _
  · unfold close at taken
    split at taken
    · cases taken
    · rename_i isOpen
      split at taken
      · cases taken
        rw [places_place, places, places, isOpen]
        exact List.Subset.trans (List.subset_cons_self _ _) (List.subset_cons_self _ _)
      · cases taken
  · simp only at taken
    split at taken
    · cases taken
      rw [places_place]
      exact List.subset_cons_self _ _
    · cases taken
      exact List.Subset.refl _

/-- A token that cannot be taken in is itself the place of the fault. -/
theorem position_of_take
    (failed : nesting.take placed = .error fault) :
    fault.position = placed.position := by
  unfold take at failed
  split at failed
  · cases failed
  · unfold takeText at failed
    split at failed
    · split at failed
      · cases failed
      · cases failed
        rfl
    · cases failed
  · unfold close at failed
    split at failed
    · cases failed
      rfl
    · split at failed
      · cases failed
      · cases failed
        rfl
  · simp only at failed
    split at failed <;> cases failed

theorem position_of_finish
    (failed : nesting.finish = .error fault) :
    fault.position ∈ nesting.places := by
  unfold finish at failed
  split at failed
  · cases failed
  · rename_i isOpen
    cases failed
    rw [places, isOpen]
    exact List.mem_cons_self

/-- A fault in the nesting is noticed where a tag was opened or where a token begins. -/
theorem position_of_takeAll
    {tokens : List PlacedToken}
    (failed : nesting.takeAll tokens = .error fault) :
    fault.position ∈ nesting.places ++ tokens.map PlacedToken.position := by
  induction tokens generalizing nesting with
  | nil =>
      exact List.mem_append_left _ (position_of_finish failed)
  | cons first rest inductionHypothesis =>
      rw [takeAll] at failed
      split at failed
      · exact List.mem_append_left _ (position_of_finish failed)
      · split at failed
        · rename_i taken
          obtain isOpen | isAhead := List.mem_append.mp (inductionHypothesis failed)
          · obtain isHere | wasOpen := List.mem_cons.mp (places_of_take taken isOpen)
            · exact List.mem_append_right _ (List.mem_cons.mpr (.inl isHere))
            · exact List.mem_append_left _ wasOpen
          · exact List.mem_append_right _ (List.mem_cons_of_mem _ isAhead)
        · rename_i notTaken
          cases failed
          exact List.mem_append_right _ (List.mem_cons.mpr (.inl (position_of_take notTaken)))

end Nesting

/--
Reading a source ends, with a fault or with tokens of which the last, and no other, is the end of
the source. The places of the tokens are those of offsets in the source that increase from each
token to the next, and every fault of a source, in its tokens or in their nesting, has the place of
an offset, too.
-/
theorem places_of_reading
    (marker : Char)
    (source : String) :
    ((∃ fault, tokensOfSource marker source = .error fault) ∨
      ∃ tokens,
        tokensOfSource marker source = .ok tokens ∧
          EndsOnce tokens ∧
            ∃ offsets, AreOffsets source.toList tokens offsets) ∧
    ∀ fault,
      forestOfSource marker source = .error fault →
        ∃ offset ≤ source.toList.length, fault.position = placeAt source.toList offset := by
  have ofTokens
      (tokens : List PlacedToken)
      (read : tokensOfSource marker source = .ok tokens) :
      ∃ offsets, AreOffsets source.toList tokens offsets := by
    have atStart : readTokens marker ⟨placeBehind [], source.toList⟩ = .ok tokens := read
    obtain ⟨offsets, areOffsets, -⟩ := exists_offsets_of_readTokens atStart
    exact ⟨offsets, areOffsets⟩
  constructor
  · cases read : tokensOfSource marker source with
    | error fault =>
        exact .inl ⟨fault, rfl⟩
    | ok tokens =>
        exact .inr ⟨tokens, rfl, endsOnce_of_readTokens read, ofTokens tokens read⟩
  · intro fault failed
    unfold forestOfSource at failed
    split at failed
    · rename_i tokens read
      obtain ⟨offsets, areOffsets⟩ := ofTokens tokens read
      have isPlace := Nesting.position_of_takeAll failed
      rw [show ({} : Nesting).places = [] from rfl, List.nil_append, areOffsets.places] at isPlace
      obtain ⟨offset, member, place⟩ := List.mem_map.mp isPlace
      exact ⟨offset, areOffsets.within offset member, place.symm⟩
    · rename_i read
      cases failed
      have atStart : Cursor.GetsTo ⟨placeBehind [], source.toList⟩ fault.position :=
        getsTo_of_readTokens read
      exact atStart.exists_offset

/-- A closing tag that goes on is a fault behind the character that does not end it. -/
theorem places_of_reading_closing :
    let fault : Fault := ⟨.closingTagNotEnded "a" (some 'x'), ⟨2, 6⟩⟩
    forestOfSource ':' "<a>\n</a x>" = .error fault ∧
      ∃ offset ≤ 10, fault.position = placeAt "<a>\n</a x>".toList offset := by
  intro fault
  have failed : forestOfSource ':' "<a>\n</a x>" = .error fault := by
    decide +kernel
  exact ⟨failed, (places_of_reading ':' "<a>\n</a x>").2 fault failed⟩

end WidgetMarkup.Markup
