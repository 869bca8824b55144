import WidgetMarkup.Proofs.Markup.LongerSources
import WidgetMarkup.Proofs.Markup.RoundTrip

namespace WidgetMarkup.Markup

/-!
# Tokens without their places

Where a piece of markup stands decides the places of its tokens and nothing else. So characters
have tokens of their own, a source goes on with the tokens of what follows wherever its own tokens
end, and the forest of a source is, up to places, what its bare tokens spell.
-/

/-- The tokens that are read from characters, wherever these stand. -/
inductive Reads (marker : Char) : List Char → List Token → Prop where
  | nothing
      {characters : List Char}
      {position : Position}
      {after : Cursor} :
      readNext marker ⟨position, characters⟩ = .ok (.endOfSource, after) →
      Reads marker characters []
  | next
      {characters : List Char}
      {position : Position}
      {token : Token}
      {after : Cursor}
      {tokens : List Token} :
      readNext marker ⟨position, characters⟩ = .ok (token, after) →
      token ≠ .endOfSource →
      Reads marker after.rest tokens →
      Reads marker characters (token :: tokens)

section Places

variable {marker : Char} {characters : List Char} {token : Token}

/-- The next token is the same wherever the characters stand. -/
theorem readNext_anywhere
    {position : Position}
    {after : Cursor}
    (read : readNext marker ⟨position, characters⟩ = .ok (token, after))
    (elsewhere : Position) :
    ∃ after',
      readNext marker ⟨elsewhere, characters⟩ = .ok (token, after') ∧
        (token ≠ .endOfSource → after'.rest = after.rest) := by
  have continues :
      Cursor.Continues ⟨elsewhere, characters⟩ ⟨position, characters⟩ [] :=
    (List.append_nil characters).symm
  by_cases isEnd : token = .endOfSource
  · subst isEnd
    obtain ⟨final, same⟩ := readNext_continues_of_end read continues
    exact ⟨⟨final, []⟩, same.trans (readNext_nil marker final), fun notEnd => absurd rfl notEnd⟩
  · obtain ⟨after', readElsewhere, behind⟩ :=
      readNext_continues read isEnd continues fun _ _ => rfl
    exact ⟨after', readElsewhere, fun _ => behind.trans (List.append_nil _)⟩

end Places

namespace Reads

variable {marker : Char} {characters : List Char} {tokens : List Token}

/-- The tokens of a source are read from its characters. -/
theorem of_readTokens
    {cursor : Cursor}
    {placed : List PlacedToken}
    (read : readTokens marker cursor = .ok placed) :
    ∃ front final,
      placed = front ++ [⟨.endOfSource, final⟩] ∧
        Reads marker cursor.rest (front.map PlacedToken.token) := by
  fun_induction readTokens marker cursor generalizing placed with
  | case1 => cases read
  | case2 cursor after readEnd =>
      cases read
      exact ⟨[], cursor.position, rfl, .nothing readEnd⟩
  | case3 => cases read
  | case4 cursor token after readToken notEnd rest readRest inductionHypothesis =>
      cases read
      obtain ⟨front, final, rfl, reads⟩ := inductionHypothesis readRest
      exact ⟨⟨token, cursor.position⟩ :: front, final, rfl, .next readToken notEnd reads⟩

/-- Where the characters of tokens stand, these tokens are read. -/
theorem exists_readTokens
    (reads : Reads marker characters tokens)
    (position : Position) :
    ∃ front final,
      readTokens marker ⟨position, characters⟩ = .ok (front ++ [⟨.endOfSource, final⟩]) ∧
        front.map PlacedToken.token = tokens := by
  induction reads generalizing position with
  | nothing read =>
      obtain ⟨after, readHere, -⟩ := readNext_anywhere read position
      exact ⟨[], position, readTokens_of_readNext_end readHere, rfl⟩
  | @next characters _ token _ tokens read notEnd _ inductionHypothesis =>
      obtain ⟨⟨place, rest⟩, readHere, sameRest⟩ := readNext_anywhere read position
      obtain rfl := sameRest notEnd
      obtain ⟨front, final, readRest, rfl⟩ := inductionHypothesis place
      exact ⟨⟨token, position⟩ :: front, final, readTokens_cons readHere notEnd readRest, rfl⟩

/-- Behind its first token, the rest of the characters is read. -/
theorem next_iff
    {position : Position}
    {token : Token}
    {after : Cursor}
    (read : readNext marker ⟨position, characters⟩ = .ok (token, after))
    (notEnd : token ≠ .endOfSource) :
    Reads marker characters tokens ↔
      ∃ others, tokens = token :: others ∧ Reads marker after.rest others := by
  constructor
  · intro reads
    cases reads with
    | @nothing _ elsewhere _ readEnd =>
        obtain ⟨_, readThere, -⟩ := readNext_anywhere read elsewhere
        cases readThere.symm.trans readEnd
        exact absurd rfl notEnd
    | @next _ elsewhere _ _ others readOther _ readsOthers =>
        obtain ⟨_, readThere, sameRest⟩ := readNext_anywhere read elsewhere
        cases readThere.symm.trans readOther
        exact ⟨others, rfl, sameRest notEnd ▸ readsOthers⟩
  · rintro ⟨others, rfl, readsOthers⟩
    exact .next read notEnd readsOthers

/-- Characters with the same next token and the same rest have the same tokens. -/
theorem of_readNext_eq
    {characters' : List Char}
    {position position' : Position}
    (same :
      readNext marker ⟨position, characters⟩ = readNext marker ⟨position', characters'⟩)
    (reads : Reads marker characters tokens) :
    Reads marker characters' tokens := by
  cases reads with
  | nothing read =>
      obtain ⟨_, readHere, -⟩ := readNext_anywhere read position
      exact .nothing (same ▸ readHere)
  | next read notEnd readsOthers =>
      obtain ⟨_, readHere, sameRest⟩ := readNext_anywhere read position
      exact .next (same ▸ readHere) notEnd (sameRest notEnd ▸ readsOthers)

theorem congr
    {characters' : List Char}
    {position position' : Position}
    (same :
      readNext marker ⟨position, characters⟩ = readNext marker ⟨position', characters'⟩) :
    Reads marker characters tokens ↔ Reads marker characters' tokens :=
  ⟨of_readNext_eq same, of_readNext_eq same.symm⟩

/-- Nothing is read from no characters. -/
theorem eq_nil
    (reads : Reads marker [] tokens) :
    tokens = [] := by
  cases reads with
  | nothing =>
      rfl
  | @next _ position _ _ _ read notEnd _ =>
      cases read.symm.trans (readNext_nil marker position)
      exact absurd rfl notEnd

/--
Behind characters whose last token is a tag, or that hold no token, one goes on as if they were not
there.
-/
theorem append_iff
    {more : List Char}
    {following : List Token}
    (reads : Reads marker characters tokens)
    (settled : ∀ last ∈ tokens.getLast?, last.isTag = true) :
    Reads marker (characters ++ more) following ↔
      ∃ others, following = tokens ++ others ∧ Reads marker more others := by
  induction reads generalizing following with
  | @nothing characters position _ read =>
      obtain ⟨_, same⟩ :=
        readNext_continues_of_end read
          (show Cursor.Continues ⟨position, characters ++ more⟩ _ more from rfl)
      simp [Reads.congr same]
  | @next characters position token after tokens read notEnd readsRest inductionHypothesis =>
      have settledRest : ∀ last ∈ tokens.getLast?, last.isTag = true := by
        intro last isLast
        refine settled last ?_
        rw [List.getLast?_cons, Option.mem_def.mp isLast]
        rfl
      have settledToken : token.isTag = false → after.rest = [] → more = [] := by
        intro isText atEnd
        rw [atEnd] at readsRest
        obtain rfl := eq_nil readsRest
        simp [settled token rfl] at isText
      obtain ⟨_, readLonger, behind⟩ :=
        readNext_continues read notEnd
          (show Cursor.Continues ⟨position, characters ++ more⟩ _ more from rfl) settledToken
      rw [next_iff readLonger notEnd, behind]
      simp only [inductionHypothesis settledRest, List.cons_append]
      constructor
      · rintro ⟨_, rfl, others, rfl, readsMore⟩
        exact ⟨others, rfl, readsMore⟩
      · rintro ⟨others, rfl, readsMore⟩
        exact ⟨_, rfl, others, rfl, readsMore⟩

end Reads

/-- Tokens in other places spell the same nodes in other places. -/
theorem Spells.exists_elsewhere
    {tokens tokens' : List PlacedToken}
    {lines : List String}
    {nodes : List Node}
    (spells : Spells tokens lines nodes)
    (same : tokens'.map PlacedToken.token = tokens.map PlacedToken.token) :
    ∃ nodes',
      Spells tokens' lines nodes' ∧ Node.unplacedAll nodes' = Node.unplacedAll nodes := by
  induction spells generalizing tokens' with
  | nothing =>
      rw [List.map_nil, List.map_eq_nil_iff] at same
      exact ⟨[], same ▸ .nothing, rfl⟩
  | text content _ _ inductionHypothesis =>
      obtain ⟨⟨_, position⟩, rest, rfl, rfl, sameRest⟩ := List.map_eq_cons_iff.mp same
      obtain ⟨nodes', spellsRest, sameNodes⟩ := inductionHypothesis sameRest
      exact ⟨nodes', .text content position spellsRest, sameNodes⟩
  | selfClosing opening _ inductionHypothesis =>
      obtain ⟨⟨_, position⟩, rest, rfl, rfl, sameRest⟩ := List.map_eq_cons_iff.mp same
      obtain ⟨nodes', spellsRest, sameNodes⟩ := inductionHypothesis sameRest
      refine ⟨_, .selfClosing { opening with position } spellsRest, ?_⟩
      simp [Node.unplacedAll, Node.unplaced, sameNodes]
  | tag opening closingName _ sameName _ _ insideHypothesis restHypothesis =>
      obtain ⟨⟨_, position⟩, _, rfl, rfl, sameOthers⟩ := List.map_eq_cons_iff.mp same
      rw [List.map_append] at sameOthers
      obtain ⟨inside, _, rfl, sameInside, sameEnd⟩ := List.map_eq_append_iff.mp sameOthers
      obtain ⟨⟨_, closingPosition⟩, rest, rfl, rfl, sameRest⟩ := List.map_eq_cons_iff.mp sameEnd
      obtain ⟨children', spellsInside, sameChildren⟩ := insideHypothesis sameInside
      obtain ⟨nodes', spellsRest, sameNodes⟩ := restHypothesis sameRest
      refine ⟨_, .tag { opening with position } closingName closingPosition sameName spellsInside
        spellsRest, ?_⟩
      simp [Node.unplacedAll, Node.unplaced, sameChildren, sameNodes]

/-- The forest of a source is, up to places, what its bare tokens spell. -/
theorem forestOfSource_map_eq_ok_iff
    {marker : Char}
    {source : String}
    {bare : List Node} :
    (forestOfSource marker source).map Node.unplacedAll = .ok bare ↔
      ∃ tokens nodes,
        Reads marker source.toList (tokens.map PlacedToken.token) ∧
          Spells tokens [] nodes ∧
            Node.unplacedAll nodes = bare := by
  constructor
  · intro isBare
    unfold forestOfSource at isBare
    split at isBare
    · rename_i placed read
      obtain ⟨tokens, final, rfl, reads⟩ := Reads.of_readTokens read
      obtain ⟨tokens', final', same, shape⟩ := shape_of_readTokens read
      obtain ⟨rfl, -⟩ := List.append_inj' same rfl
      cases isForest : forestOfTokens (tokens ++ [⟨.endOfSource, final⟩]) with
      | error fault =>
          rw [isForest] at isBare
          cases isBare
      | ok nodes =>
          rw [isForest] at isBare
          cases isBare
          refine ⟨tokens, nodes, reads, ?_, rfl⟩
          exact (forestOfTokens_eq_ok_iff_spells final fun placed isThere =>
            (shape placed isThere).1).mp isForest
    · cases isBare
  · rintro ⟨tokens, nodes, reads, spells, rfl⟩
    obtain ⟨front, final, read, same⟩ := reads.exists_readTokens .start
    obtain ⟨nodes', spellsFront, sameNodes⟩ := spells.exists_elsewhere same
    have isForest :=
      (forestOfTokens_eq_ok_iff_spells final spellsFront.ne_endOfSource).mpr spellsFront
    rw [forestOfSource, tokensOfSource, Cursor.ofSource, read]
    simp only [isForest, Except.map, sameNodes]

end WidgetMarkup.Markup
