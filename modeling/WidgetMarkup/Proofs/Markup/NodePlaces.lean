import WidgetMarkup.Proofs.Markup.IgnoredPieces

namespace WidgetMarkup.Markup

/-!
# The places of nodes

A source is laid out as tokens with comments and processing instructions in front of them, and every
place is that behind all characters before it. The place of a node is the one behind the token
before its opening tag: that of the bracket of the tag if nothing is passed over in between, and
that of the first comment or instruction otherwise.
-/

section Places

/--
The place behind characters: the number of line feeds, and that of the characters since the last of
them, both counted from one.
-/
def placeBehind (before : List Char) : Position :=
  ⟨before.count '\n' + 1, (before.reverse.takeWhile (· != '\n')).length + 1⟩

theorem placeBehind_append_singleton
    (before : List Char)
    (character : Char) :
    placeBehind (before ++ [character]) = (placeBehind before).advance character := by
  by_cases isFeed : character = '\n'
  · simp [placeBehind, Position.advance, isFeed]
  · simp [placeBehind, Position.advance, isFeed]

/-- Places go on as cursors move. -/
theorem placeBehind_append
    (before more : List Char) :
    placeBehind (before ++ more) = (placeBehind before).after more := by
  induction more generalizing before with
  | nil =>
      rw [List.append_nil, Position.after_nil]
  | cons character rest inductionHypothesis =>
      rw [List.append_cons, inductionHypothesis, placeBehind_append_singleton, Position.after_cons]

/-- No two places in a source are the same. -/
theorem placeBehind_eq_append_iff
    {before more : List Char} :
    placeBehind before = placeBehind (before ++ more) ↔ more = [] := by
  refine ⟨fun same => ?_, fun nothing => by rw [nothing, List.append_nil]⟩
  obtain ⟨sameLine, sameColumn⟩ := Position.mk.inj same
  have noFeed : '\n' ∉ more := by
    rw [List.count_append] at sameLine
    exact List.count_eq_zero.mp (by omega)
  have areOthers : ∀ character ∈ more.reverse, (character != '\n') = true := by
    intro character isThere
    exact bne_iff_ne.mpr (ne_of_mem_of_not_mem (List.mem_reverse.mp isThere) noFeed)
  rw [List.reverse_append, List.takeWhile_append_of_pos areOthers, List.length_append,
    List.length_reverse] at sameColumn
  exact List.length_eq_zero_iff.mp (by omega)

end Places

namespace Cursor

/-- Whether a cursor gets to another one by passing characters. -/
def Reaches (cursor after : Cursor) : Prop :=
  ∃ passed, cursor.rest = passed ++ after.rest ∧ after.position = cursor.position.after passed

namespace Reaches

variable {cursor between after : Cursor}

theorem refl
    (cursor : Cursor) :
    cursor.Reaches cursor :=
  ⟨[], rfl, rfl⟩

theorem trans
    (first : cursor.Reaches between)
    (second : between.Reaches after) :
    cursor.Reaches after := by
  obtain ⟨passed, shape, position⟩ := first
  obtain ⟨passed', shape', position'⟩ := second
  refine ⟨passed ++ passed', ?_, ?_⟩
  · rw [shape, shape', List.append_assoc]
  · rw [position', position, Position.after_append]

theorem skip
    (reaches : cursor.Reaches after)
    (count : Nat) :
    cursor.Reaches (after.skip count) :=
  reaches.trans ⟨after.rest.take count, (List.take_append_drop _ _).symm, rfl⟩

end Reaches

end Cursor

section Readers

variable {marker : Char} {cursor after : Cursor}

theorem reaches_skipMarker
    (marker : Char)
    (cursor : Cursor) :
    cursor.Reaches (skipMarker marker cursor) := by
  unfold skipMarker
  split
  · exact (Cursor.Reaches.refl cursor).skip 1
  · exact .refl cursor

theorem reaches_of_readTagName
    {tag : TagName}
    (read : readTagName marker cursor = .ok (tag, after)) :
    cursor.Reaches after := by
  unfold readTagName at read
  simp only at read
  split at read
  · cases read
  · cases read
    exact (reaches_skipMarker marker cursor).skip _

theorem reaches_of_readValue
    {name value : String}
    (read : readValue name cursor = .ok (value, after)) :
    cursor.Reaches after := by
  unfold readValue at read
  split at read
  · cases read
  · simp only at read
    split at read
    · split at read
      · cases read
      · cases read
        exact (((Cursor.Reaches.refl cursor).skip 1).skip _).skip 1
    · split at read
      · cases read
      · cases read
        exact (Cursor.Reaches.refl cursor).skip _

theorem reaches_of_readAttribute
    {entry : Attribute}
    (read : readAttribute cursor = .ok (entry, after)) :
    cursor.Reaches after := by
  have behindName : cursor.Reaches (cursor.skipRun isAttributeNameCharacter).skipBlanks :=
    ((Cursor.Reaches.refl cursor).skip _).skip _
  unfold readAttribute at read
  simp only at read
  split at read
  · cases read
  · split at read
    · split at read
      · rename_i readTheValue
        cases read
        exact ((behindName.skip 1).skip _).trans (reaches_of_readValue readTheValue)
      · cases read
    · cases read
      exact behindName

theorem reaches_of_readTagBody
    {name : String}
    {body : TagBody}
    (read : readTagBody name cursor = .ok (body, after)) :
    cursor.Reaches after := by
  fun_induction readTagBody name cursor generalizing body after with
  | case1 => cases read
  | case2 start =>
      cases read
      exact ((Cursor.Reaches.refl start).skip _).skip 1
  | case3 start =>
      cases read
      exact (((Cursor.Reaches.refl start).skip _).skip 1).skip 1
  | case4 => cases read
  | case5 => cases read
  | case6 => cases read
  | case7 start cursor entry afterEntry readEntry body' after' readRest =>
      rename_i inductionHypothesis
      cases read
      have behindEntry := reaches_of_readAttribute readEntry
      exact ((Cursor.Reaches.refl start).skip _).trans
        (behindEntry.trans (inductionHypothesis readRest))

/-- Reading a token passes the characters that the token is written with. -/
theorem reaches_of_readToken
    {token : Token}
    (read : readToken marker cursor = .ok (token, after)) :
    cursor.Reaches after := by
  unfold readToken at read
  split at read
  · cases read
    exact .refl _
  · simp only [readClosingTag, bind, Except.bind] at read
    split at read
    · cases read
    · rename_i result readName
      split at read
      · cases read
        have behindName := reaches_of_readTagName readName
        exact ((((Cursor.Reaches.refl cursor).skip 2).trans behindName).skip _).skip 1
      · cases read
  · simp only [readOpeningTag, bind, Except.bind] at read
    split at read
    · cases read
    · rename_i result readName
      split at read
      · cases read
      · rename_i bodyResult readBody
        cases read
        have behindName := reaches_of_readTagName readName
        exact (((Cursor.Reaches.refl cursor).skip 1).trans behindName).trans
          (reaches_of_readTagBody readBody)
  · cases read
    exact (Cursor.Reaches.refl cursor).skip _

/-- An opening tag begins with a bracket. -/
theorem exists_of_readToken_opening
    {name : String}
    {isMacro selfClosing : Bool}
    {attributes : List Attribute}
    (read :
      readToken marker cursor = .ok (.opening name isMacro attributes selfClosing, after)) :
    ∃ behind, cursor.rest = '<' :: behind := by
  unfold readToken at read
  split at read
  · cases read
  · rename_i rest shape
    exact ⟨_, shape⟩
  · rename_i rest _ shape
    exact ⟨_, shape⟩
  · cases read

end Readers

/-- A token, the pieces that are passed over in front of it, and the characters it is read from. -/
structure Piece where
  ignored : List (List Char)
  written : List Char
  token : Token

/-- The pieces that characters are laid out as, up to their end. -/
inductive Layout (marker : Char) : List Char → List Piece → Prop where
  | nothing
      {ignored : List (List Char)} :
      (∀ piece ∈ ignored, IsIgnored piece) →
      Layout marker ignored.flatten []
  | next
      {piece : Piece}
      {rest : List Char}
      {pieces : List Piece}
      {position position' : Position} :
      (∀ passed ∈ piece.ignored, IsIgnored passed) →
      (∀ opening ∈ [commentOpening, instructionOpening], ¬ opening <+: piece.written ++ rest) →
      readToken marker ⟨position, piece.written ++ rest⟩ = .ok (piece.token, ⟨position', rest⟩) →
      piece.token ≠ .endOfSource →
      Layout marker rest pieces →
      Layout marker (piece.ignored.flatten ++ piece.written ++ rest) (piece :: pieces)

/-- A piece and all characters in front of it. -/
structure Site where
  before : List Char
  piece : Piece

/-- The pieces of a layout behind some characters, each where it stands. -/
def sites (before : List Char) : List Piece → List Site
  | [] => []
  | piece :: rest =>
      ⟨before, piece⟩ :: sites (before ++ piece.ignored.flatten ++ piece.written) rest

namespace Site

/-- The token of a piece, placed in front of what is passed over. -/
def placed (site : Site) : PlacedToken :=
  ⟨site.piece.token, placeBehind site.before⟩

/-- The characters in front of those that the token is read from. -/
def beforeToken (site : Site) : List Char :=
  site.before ++ site.piece.ignored.flatten

end Site

section Layouts

variable {marker : Char} {characters : List Char} {pieces : List Piece}

/-- Where no comment and no instruction begins, nothing is passed over. -/
theorem skipIgnored_eq_self
    {characters : List Char}
    (noneOpens : ∀ opening ∈ [commentOpening, instructionOpening], ¬ opening <+: characters)
    (position : Position) :
    skipIgnored ⟨position, characters⟩ = .ok ⟨position, characters⟩ := by
  simp only [List.forall_mem_cons, List.not_mem_nil, false_imp_iff, implies_true, and_true]
    at noneOpens
  rw [skipIgnored, if_neg, if_neg]
  · exact fun starts => noneOpens.2 (List.isPrefixOf_iff_prefix.mp starts)
  · exact fun starts => noneOpens.1 (List.isPrefixOf_iff_prefix.mp starts)

/-- A token is read alike in every place. -/
theorem readToken_anywhere
    {written rest : List Char}
    {token : Token}
    {position position' : Position}
    (read : readToken marker ⟨position, written ++ rest⟩ = .ok (token, ⟨position', rest⟩))
    (elsewhere : Position) :
    readToken marker ⟨elsewhere, written ++ rest⟩ = .ok (token, ⟨elsewhere.after written, rest⟩) := by
  have continues :
      Cursor.Continues ⟨elsewhere, written ++ rest⟩ ⟨position, written ++ rest⟩ [] :=
    (List.append_nil _).symm
  obtain ⟨⟨place, rest'⟩, readElsewhere, behind⟩ :=
    readToken_continues read continues fun _ _ => rfl
  obtain rfl : rest' = rest := behind.trans (List.append_nil rest)
  obtain ⟨passed, shape, sameplace⟩ := reaches_of_readToken readElsewhere
  obtain rfl := List.append_cancel_right shape
  rw [readElsewhere, show place = elsewhere.after written from sameplace]

/-- The characters of a layout have its tokens, each in its place. -/
theorem Layout.readTokens_eq
    (layout : Layout marker characters pieces)
    (before : List Char) :
    ∃ final,
      readTokens marker ⟨placeBehind before, characters⟩ =
        .ok ((sites before pieces).map Site.placed ++ [⟨.endOfSource, final⟩]) := by
  induction layout generalizing before with
  | @nothing ignored areIgnored =>
      have skipped :=
        (skipIgnored_flatten_append areIgnored (placeBehind before) []).trans
          (skipIgnored_eq_self (by decide) _)
      rw [List.append_nil] at skipped
      have readEnd :
          readNext marker ⟨placeBehind before, ignored.flatten⟩ =
            .ok (.endOfSource, ⟨(placeBehind before).after ignored.flatten, []⟩) := by
        rw [readNext, skipped]
        rfl
      exact ⟨placeBehind before, readTokens_of_readNext_end readEnd⟩
  | @next piece rest pieces position position' areIgnored noneOpens read notEnd _
      inductionHypothesis =>
      have readNextToken :
          readNext marker ⟨placeBehind before, piece.ignored.flatten ++ piece.written ++ rest⟩ =
            .ok (piece.token,
              ⟨placeBehind (before ++ piece.ignored.flatten ++ piece.written), rest⟩) := by
        rw [readNext, List.append_assoc, skipIgnored_flatten_append areIgnored,
          skipIgnored_eq_self noneOpens]
        simp only
        rw [readToken_anywhere read, placeBehind_append, placeBehind_append]
      -- The rest begins behind the token, while the token itself has the place in front of it all.
      obtain ⟨final, readRest⟩ :=
        inductionHypothesis (before ++ piece.ignored.flatten ++ piece.written)
      exact ⟨final, readTokens_cons readNextToken notEnd readRest⟩

/-- Characters whose tokens can be read have a layout. -/
theorem exists_layout
    {cursor : Cursor}
    {tokens : List PlacedToken}
    (read : readTokens marker cursor = .ok tokens) :
    ∃ pieces, Layout marker cursor.rest pieces := by
  fun_induction readTokens marker cursor generalizing tokens with
  | case1 => cases read
  | case2 cursor after readEnd =>
      unfold readNext at readEnd
      split at readEnd
      · rename_i beginning skipped
        obtain ⟨ignored, areIgnored, shape⟩ := exists_of_skipIgnored skipped
        obtain ⟨-, atEnd, -⟩ | ⟨isTag, -⟩ | ⟨_, _, _, _, isText, -⟩ := readToken_cases readEnd
        · rw [shape, atEnd, List.append_nil]
          exact ⟨[], .nothing areIgnored⟩
        · cases isTag
        · cases isText
      · cases readEnd
  | case3 => cases read
  | case4 cursor token after readNextToken notEnd tokens readRest inductionHypothesis =>
      obtain ⟨pieces, layout⟩ := inductionHypothesis readRest
      unfold readNext at readNextToken
      split at readNextToken
      · rename_i beginning skipped
        obtain ⟨ignored, areIgnored, shape⟩ := exists_of_skipIgnored skipped
        obtain ⟨notComment, notInstruction⟩ := not_startsWith_of_skipIgnored skipped
        obtain ⟨written, shapeToken, -⟩ := reaches_of_readToken readNextToken
        obtain ⟨position, rest⟩ := beginning
        obtain rfl : rest = written ++ after.rest := shapeToken
        have noneOpens :
            ∀ opening ∈ [commentOpening, instructionOpening],
              ¬ opening <+: written ++ after.rest := by
          rw [Cursor.startsWith, List.isPrefixOf_iff_prefix] at notComment notInstruction
          simpa using ⟨notComment, notInstruction⟩
        let piece : Piece := ⟨ignored, written, token⟩
        have layoutHere :
            Layout marker (piece.ignored.flatten ++ piece.written ++ after.rest)
              (piece :: pieces) :=
          .next areIgnored noneOpens readNextToken notEnd layout
        rw [shape, ← List.append_assoc]
        exact ⟨piece :: pieces, layoutHere⟩
      · cases readNextToken

/-- Every token of a layout stands in its source behind what is in front of it. -/
theorem Layout.exists_of_mem_sites
    {before : List Char}
    {site : Site}
    (layout : Layout marker characters pieces)
    (member : site ∈ sites before pieces) :
    ∃ behind position after,
      before ++ characters = site.beforeToken ++ behind ∧
        readToken marker ⟨position, behind⟩ = .ok (site.piece.token, after) ∧
          ∀ passed ∈ site.piece.ignored, IsIgnored passed := by
  induction layout generalizing before with
  | nothing =>
      cases member
  | @next piece rest pieces position position' areIgnored noneOpens read notEnd _
      inductionHypothesis =>
      obtain rfl | member := List.mem_cons.mp member
      · refine ⟨piece.written ++ rest, position, _, ?_, read, areIgnored⟩
        simp [Site.beforeToken]
      · obtain ⟨behind, position, after, shape, found⟩ := inductionHypothesis member
        refine ⟨behind, position, after, ?_, found⟩
        rw [← shape]
        simp

theorem Layout.ne_endOfSource
    (layout : Layout marker characters pieces)
    (before : List Char) :
    ∀ placed ∈ (sites before pieces).map Site.placed, placed.token ≠ .endOfSource := by
  induction layout generalizing before with
  | nothing =>
      exact List.forall_mem_nil _
  | next _ _ _ notEnd _ inductionHypothesis =>
      exact List.forall_mem_cons.mpr ⟨notEnd, inductionHypothesis _⟩

/-- The nodes of a source are opened by the opening tags of its layout, in their order. -/
theorem Layout.openings_eq
    {source : String}
    {forest : List Node}
    (layout : Layout marker source.toList pieces)
    (read : forestOfSource marker source = .ok forest) :
    (Node.outlineAll 0 [] forest).map OutlineEntry.opening =
      (sites [] pieces).filterMap fun site => site.placed.opening? := by
  obtain ⟨final, readLayout⟩ := layout.readTokens_eq []
  have readSource :
      tokensOfSource marker source =
        .ok ((sites [] pieces).map Site.placed ++ [⟨.endOfSource, final⟩]) :=
    readLayout
  rw [forestOfSource, readSource] at read
  have spells := (forestOfTokens_eq_ok_iff_spells final (layout.ne_endOfSource [])).mp read
  rw [← spells.outlineOfTokens_eq, outlineOfTokens_map_opening, List.filterMap_map]
  rfl

/-- Nothing that is passed over is empty. -/
theorem IsIgnored.ne_nil
    {passed : List Char}
    (ignored : IsIgnored passed) :
    passed ≠ [] := by
  cases ignored with
  | comment =>
      exact List.append_ne_nil_of_right_ne_nil _ (List.cons_ne_nil _ _)
  | instruction =>
      exact List.append_ne_nil_of_right_ne_nil _ (List.cons_ne_nil _ _)

/-- The place of a token is the one in front of its characters if nothing is passed over. -/
theorem Site.placeBehind_eq_iff
    {site : Site}
    (areIgnored : ∀ passed ∈ site.piece.ignored, IsIgnored passed) :
    placeBehind site.before = placeBehind site.beforeToken ↔ site.piece.ignored = [] := by
  rw [beforeToken, placeBehind_eq_append_iff, List.flatten_eq_nil_iff]
  refine ⟨fun areEmpty => ?_, fun none passed isThere => ?_⟩
  · refine List.eq_nil_iff_forall_not_mem.mpr fun passed isThere => ?_
    exact (areIgnored passed isThere).ne_nil (areEmpty passed isThere)
  · rw [none] at isThere
    cases isThere

theorem PlacedToken.exists_of_opening?
    {placed : PlacedToken}
    {opening : Opening}
    (isOpening : placed.opening? = some opening) :
    placed.position = opening.position ∧
      ∃ selfClosing,
        placed.token =
          .opening opening.name opening.isMacro opening.attributes selfClosing := by
  unfold opening? at isOpening
  split at isOpening
  · rename_i isTag
    cases isOpening
    exact ⟨rfl, _, isTag⟩
  · cases isOpening

end Layouts

/--
The nodes of a source, in pre-order, are those of its opening tags, each with the place behind all
tokens before its tag. The bracket of the tag stands behind what is passed over in between, so that
the place of the node is that of the bracket exactly if nothing is passed over.
-/
theorem places_of_nodes
    {marker : Char}
    {source : String}
    {forest : List Node}
    (read : forestOfSource marker source = .ok forest) :
    (∃ pieces, Layout marker source.toList pieces) ∧
    ∀ pieces, Layout marker source.toList pieces →
      (Node.outlineAll 0 [] forest).map OutlineEntry.opening =
        (sites [] pieces).filterMap (fun site => site.placed.opening?) ∧
      ∀ site ∈ sites [] pieces, ∀ opening, site.placed.opening? = some opening →
        opening.position = placeBehind site.before ∧
        (∃ behind, source.toList = site.beforeToken ++ '<' :: behind) ∧
        (opening.position = placeBehind site.beforeToken ↔ site.piece.ignored = []) := by
  refine ⟨?_, fun pieces layout => ⟨layout.openings_eq read, ?_⟩⟩
  · unfold forestOfSource at read
    split at read
    · rename_i readSource
      exact exists_layout readSource
    · cases read
  · intro site member opening isOpening
    obtain ⟨position, selfClosing, isTag⟩ := PlacedToken.exists_of_opening? isOpening
    obtain ⟨behind, _, _, shape, readTag, areIgnored⟩ := layout.exists_of_mem_sites member
    rw [show site.piece.token = _ from isTag] at readTag
    obtain ⟨behindBracket, begins⟩ := exists_of_readToken_opening readTag
    obtain rfl : behind = '<' :: behindBracket := begins
    have place : placeBehind site.before = opening.position := position
    exact ⟨place.symm, ⟨behindBracket, shape⟩, place ▸ site.placeBehind_eq_iff areIgnored⟩

/-- A tag behind a comment, inside of another one. -/
theorem places_of_nodes_nested :
    let source := "<a><!-- c --><b/></a>"
    let inner : Node := { name := "b", position := ⟨1, 4⟩ }
    forestOfSource ':' source =
      .ok [{ name := "a", children := [inner], position := ⟨1, 1⟩ }] ∧
    ∃ pieces, Layout ':' source.toList pieces ∧
      ∃ site ∈ sites [] pieces,
        placeBehind site.before = inner.position ∧
          ∃ behind, source.toList = site.beforeToken ++ '<' :: behind := by
  intro source inner
  have read :
      forestOfSource ':' source =
        .ok [{ name := "a", children := [inner], position := ⟨1, 1⟩ }] := by
    decide +kernel
  obtain ⟨⟨pieces, layout⟩, ofLayout⟩ := places_of_nodes read
  obtain ⟨openings, ofSites⟩ := ofLayout pieces layout
  have isListed :
      (⟨"b", false, [], ⟨1, 4⟩⟩ : Opening) ∈
        (sites [] pieces).filterMap fun site => site.placed.opening? := by
    rw [← openings]
    exact List.mem_cons_of_mem _ List.mem_cons_self
  obtain ⟨site, member, isOpening⟩ := List.mem_filterMap.mp isListed
  obtain ⟨place, bracket, -⟩ := ofSites site member _ isOpening
  exact ⟨read, pieces, layout, site, member, place.symm, bracket⟩

/-- A tag behind a comment does not have the place of its bracket. -/
theorem place_of_comment :
    ¬ ∀ (marker : Char) (source : String) (forest : List Node) (pieces : List Piece),
        forestOfSource marker source = .ok forest →
          Layout marker source.toList pieces →
            (Node.outlineAll 0 [] forest).map (fun entry => entry.opening.position) =
              ((sites [] pieces).filter fun site => site.placed.opening?.isSome).map
                fun site => placeBehind site.beforeToken := by
  intro areBrackets
  let piece : Piece :=
    ⟨["<!-- c -->".toList], "<label/>".toList, .opening "label" false [] true⟩
  have read :
      forestOfSource ':' "<!-- c --><label/>" =
        .ok [{ name := "label", position := ⟨1, 1⟩ }] := by
    decide +kernel
  have isIgnored : ∀ passed ∈ piece.ignored, IsIgnored passed := by
    have isComment : IsIgnored (commentOpening ++ [' ', 'c', ' '] ++ commentEnding) :=
      .ofCommentBody (by decide) (by decide) (by decide)
    exact List.forall_mem_singleton.mpr isComment
  have readTag :
      readToken ':' ⟨.start, piece.written ++ []⟩ = .ok (piece.token, ⟨⟨1, 9⟩, []⟩) := by
    decide +kernel
  have layout : Layout ':' (piece.ignored.flatten ++ piece.written ++ []) [piece] :=
    .next isIgnored (by decide) readTag nofun (.nothing (List.forall_mem_nil _))
  have places := areBrackets ':' "<!-- c --><label/>" _ [piece] read layout
  revert places
  decide

end WidgetMarkup.Markup
