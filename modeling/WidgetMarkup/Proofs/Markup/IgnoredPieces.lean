import WidgetMarkup.Proofs.Markup.BareTokens

namespace WidgetMarkup.Markup

/-!
# Comments and processing instructions

A comment ends at the first ending that is found from the beginning of its opening on. So one whose
body neither holds the ending nor completes one that has begun in the opening is passed over as a
whole, and so are the openings that are endings, too: what follows these is markup again.
-/

/-- An ending with a last character of its own does not begin inside of what it follows. -/
theorem not_prefix_of_overlap
    {front written : List Char}
    {last : Char}
    (isOther : last ∉ front)
    (nonempty : written ≠ [])
    (notHere : ¬ front ++ [last] <+: written)
    (rest : List Char) :
    ¬ front ++ [last] <+: written ++ (front ++ [last] ++ rest) := by
  intro isHere
  obtain ⟨overlap, shape⟩ :=
    (List.prefix_or_prefix_of_prefix isHere (List.prefix_append _ _)).resolve_left notHere
  rw [← shape, List.prefix_append_right_inj] at isHere
  obtain rfl | ⟨shorter, final, rfl⟩ := overlap.eq_nil_or_concat'
  · rw [List.append_nil] at shape
    exact notHere (shape ▸ List.prefix_refl _)
  · rw [← List.append_assoc] at shape
    obtain ⟨rfl, same⟩ := List.append_inj' shape rfl
    obtain rfl := List.cons.inj same |>.1
    -- What is left of the ending is shorter than its front, and ends with the last character.
    have within : shorter ++ [final] <+: written ++ shorter := by
      refine List.prefix_of_prefix_length_le isHere ?_ ?_
      · rw [← List.append_assoc written, List.append_assoc (written ++ shorter)]
        exact List.prefix_append _ _
      · have positive := List.length_pos_iff.mpr nonempty
        simp only [List.length_append, List.length_cons, List.length_nil]
        omega
    exact isOther (within.subset (by simp))

/-- What is counted up to an ending that stands nowhere before. -/
theorem countPast?_append_ending
    {front written : List Char}
    {last : Char}
    (isOther : last ∉ front)
    (notBefore : ¬ front ++ [last] <:+: written)
    (rest : List Char) :
    countPast? (front ++ [last]) (written ++ (front ++ [last]) ++ rest) =
      some (written ++ (front ++ [last])).length := by
  rw [List.append_assoc, List.length_append]
  induction written with
  | nil =>
      obtain ⟨first, others, shape⟩ :=
        List.exists_cons_of_ne_nil (List.append_ne_nil_of_right_ne_nil front (by simp) :
          front ++ [last] ≠ [])
      rw [List.nil_append, shape, List.cons_append, countPast?, if_pos]
      · rw [List.length_nil, Nat.zero_add]
      · exact List.isPrefixOf_iff_prefix.mpr (List.prefix_append _ _)
  | cons character others inductionHypothesis =>
      have notInOthers : ¬ front ++ [last] <:+: others :=
        fun isInside => notBefore (isInside.trans (List.suffix_cons _ _).isInfix)
      have notHere := not_prefix_of_overlap isOther (List.cons_ne_nil character others)
        (fun isHere => notBefore isHere.isInfix) rest
      rw [← List.isPrefixOf_iff_prefix] at notHere
      rw [List.cons_append] at notHere ⊢
      rw [countPast?, if_neg notHere, inductionHypothesis notInOthers, Option.map_some,
        List.length_cons, Nat.add_right_comm]

/-- The pieces of markup that are passed over as a whole. -/
inductive IsIgnored : List Char → Prop where
  | comment
      {written : List Char} :
      commentOpening <+: written ++ commentEnding →
      ¬ commentEnding <:+: written →
      IsIgnored (written ++ commentEnding)
  | instruction
      {written : List Char} :
      instructionOpening <+: written ++ instructionEnding →
      ¬ instructionEnding <:+: written →
      IsIgnored (written ++ instructionEnding)

namespace IsIgnored

/-- A comment whose body does not end it early. -/
theorem ofCommentBody
    {body : List Char}
    (noEnding : ¬ commentEnding <:+: body)
    (noBracket : ¬ ['>'] <+: body)
    (noDash : ¬ ['-', '>'] <+: body) :
    IsIgnored (commentOpening ++ body ++ commentEnding) := by
  refine .comment ((List.prefix_append _ _).trans (List.prefix_append _ _)) ?_
  simp only [commentOpening, commentEnding, List.cons_append, List.nil_append,
    List.infix_cons_iff, List.cons_prefix_cons] at noEnding noBracket noDash ⊢
  simp_all

theorem ofInstructionBody
    {body : List Char}
    (noEnding : ¬ instructionEnding <:+: body)
    (noBracket : ¬ ['>'] <+: body) :
    IsIgnored (instructionOpening ++ body ++ instructionEnding) := by
  refine .instruction ((List.prefix_append _ _).trans (List.prefix_append _ _)) ?_
  simp only [instructionOpening, instructionEnding, List.cons_append, List.nil_append,
    List.infix_cons_iff, List.cons_prefix_cons] at noEnding noBracket ⊢
  simp_all

/-- Behind what is passed over, one goes on as if it were not there. -/
theorem skipIgnored_append
    {piece : List Char}
    (ignored : IsIgnored piece)
    (position : Position)
    (behind : List Char) :
    skipIgnored ⟨position, piece ++ behind⟩ = skipIgnored ⟨position.after piece, behind⟩ := by
  cases ignored with
  | @comment written opens notBefore =>
      have found := countPast?_append_ending (by decide : '>' ∉ ['-', '-']) notBefore behind
      have isComment :
          (⟨position, written ++ commentEnding ++ behind⟩ : Cursor).startsWith commentOpening =
            true :=
        List.isPrefixOf_iff_prefix.mpr (opens.trans (List.prefix_append _ _))
      exact (skipIgnored_comment isComment found).trans
        (congrArg skipIgnored (Cursor.skip_append position _ behind))
  | @instruction written opens notBefore =>
      have found := countPast?_append_ending (by decide : '>' ∉ ['?']) notBefore behind
      have isInstruction :
          (⟨position, written ++ instructionEnding ++ behind⟩ : Cursor).startsWith
            instructionOpening = true :=
        List.isPrefixOf_iff_prefix.mpr (opens.trans (List.prefix_append _ _))
      exact (skipIgnored_instruction (not_startsWith_comment isInstruction) isInstruction
        found).trans (congrArg skipIgnored (Cursor.skip_append position _ behind))

/-- The tokens of what follows a piece that is passed over are those of the whole. -/
theorem reads
    {marker : Char}
    {piece behind : List Char}
    {tokens : List Token}
    (ignored : IsIgnored piece)
    (readsBehind : Reads marker behind tokens) :
    Reads marker (piece ++ behind) tokens := by
  have sameNext :
      readNext marker ⟨Position.start.after piece, behind⟩ =
        readNext marker ⟨.start, piece ++ behind⟩ := by
    rw [readNext, readNext, ignored.skipIgnored_append]
  exact .of_readNext_eq sameNext readsBehind

end IsIgnored

/-- Pieces are passed over one after the other. -/
theorem skipIgnored_flatten_append
    {pieces : List (List Char)}
    (ignored : ∀ piece ∈ pieces, IsIgnored piece)
    (position : Position)
    (behind : List Char) :
    skipIgnored ⟨position, pieces.flatten ++ behind⟩ =
      skipIgnored ⟨position.after pieces.flatten, behind⟩ := by
  induction pieces generalizing position with
  | nil =>
      rfl
  | cons piece others inductionHypothesis =>
      rw [List.forall_mem_cons] at ignored
      rw [List.flatten_cons, List.append_assoc, ignored.1.skipIgnored_append,
        inductionHypothesis ignored.2, Position.after_append]

/-- What is counted reaches up to the first occurrence of the ending. -/
theorem exists_of_countPast?
    {ending characters : List Char}
    {count : Nat}
    (nonempty : ending ≠ [])
    (found : countPast? ending characters = some count) :
    ∃ written behind,
      characters = written ++ ending ++ behind ∧
        count = (written ++ ending).length ∧ ¬ ending <:+: written := by
  induction characters generalizing count with
  | nil =>
      simp [countPast?] at found
  | cons character rest inductionHypothesis =>
      unfold countPast? at found
      split at found
      · rename_i isHere
        cases found
        obtain ⟨behind, shape⟩ := List.isPrefixOf_iff_prefix.mp isHere
        exact ⟨[], behind, shape.symm, rfl, fun isInside => nonempty (List.infix_nil.mp isInside)⟩
      · rename_i notHere
        obtain ⟨fewer, foundRest, rfl⟩ := Option.map_eq_some_iff.mp found
        obtain ⟨written, behind, rfl, rfl, notBefore⟩ := inductionHypothesis foundRest
        refine ⟨character :: written, behind, rfl, rfl, fun isInside => ?_⟩
        refine (List.infix_cons_iff.mp isInside).elim (fun begins => notHere ?_) notBefore
        rw [List.isPrefixOf_iff_prefix, ← List.cons_append, ← List.cons_append]
        exact begins.trans ((List.prefix_append _ _).trans (List.prefix_append _ _))

/-- An opening without some character of an ending does not reach beyond that ending. -/
theorem prefix_of_not_mem
    {opening ending written behind : List Char}
    {character : Char}
    (isOther : character ∉ opening)
    (isThere : character ∈ ending)
    (opens : opening <+: written ++ ending ++ behind) :
    opening <+: written ++ ending := by
  refine (List.prefix_or_prefix_of_prefix opens (List.prefix_append _ _)).resolve_right ?_
  exact fun isLonger => isOther (isLonger.subset (List.mem_append_right _ isThere))

/-- What is passed over in front of a token are pieces that are passed over as wholes. -/
theorem exists_of_skipIgnored
    {cursor after : Cursor}
    (skipped : skipIgnored cursor = .ok after) :
    ∃ pieces : List (List Char),
      (∀ piece ∈ pieces, IsIgnored piece) ∧ cursor.rest = pieces.flatten ++ after.rest := by
  fun_induction skipIgnored cursor with
  | case1 cursor isComment count found inductionHypothesis =>
      obtain ⟨position, rest⟩ := cursor
      obtain ⟨written, behind, rfl, rfl, notBefore⟩ := exists_of_countPast? (by decide) found
      obtain ⟨pieces, ignored, shape⟩ := inductionHypothesis skipped
      rw [Cursor.skip_append] at shape
      obtain rfl : behind = pieces.flatten ++ after.rest := shape
      have opens : commentOpening <+: written ++ commentEnding :=
        prefix_of_not_mem (by decide : '>' ∉ commentOpening) (by decide)
          (List.isPrefixOf_iff_prefix.mp isComment)
      exact ⟨(written ++ commentEnding) :: pieces,
        List.forall_mem_cons.mpr ⟨.comment opens notBefore, ignored⟩, by simp⟩
  | case2 => cases skipped
  | case3 cursor _ isInstruction count found inductionHypothesis =>
      obtain ⟨position, rest⟩ := cursor
      obtain ⟨written, behind, rfl, rfl, notBefore⟩ := exists_of_countPast? (by decide) found
      obtain ⟨pieces, ignored, shape⟩ := inductionHypothesis skipped
      rw [Cursor.skip_append] at shape
      obtain rfl : behind = pieces.flatten ++ after.rest := shape
      have opens : instructionOpening <+: written ++ instructionEnding :=
        prefix_of_not_mem (by decide : '>' ∉ instructionOpening) (by decide)
          (List.isPrefixOf_iff_prefix.mp isInstruction)
      exact ⟨(written ++ instructionEnding) :: pieces,
        List.forall_mem_cons.mpr ⟨.instruction opens notBefore, ignored⟩, by simp⟩
  | case4 => cases skipped
  | case5 =>
      cases skipped
      exact ⟨[], List.forall_mem_nil _, rfl⟩

/-- Whether a source is empty or its last token is a tag. -/
def EndsWithTag (marker : Char) (source : String) : Prop :=
  source = "" ∨
    ∃ front last final,
      tokensOfSource marker source = .ok (front ++ [last, final]) ∧ last.token.isTag = true

theorem EndsWithTag.exists_reads
    {marker : Char}
    {source : String}
    (endsWithTag : EndsWithTag marker source) :
    ∃ tokens,
      Reads marker source.toList tokens ∧ ∀ last ∈ tokens.getLast?, last.isTag = true := by
  obtain rfl | ⟨front, last, final, read, isTag⟩ := endsWithTag
  · exact ⟨[], .nothing (readNext_nil marker .start), by simp⟩
  · obtain ⟨tokens, _, same, reads⟩ := Reads.of_readTokens read
    rw [List.append_cons] at same
    obtain ⟨rfl, -⟩ := List.append_inj' same rfl
    refine ⟨_, reads, ?_⟩
    simpa using isTag

/-- Behind a tag, a piece that is passed over leaves the forest as it is, but for places. -/
theorem forestOfSource_of_isIgnored
    {marker : Char}
    {before behind piece : String}
    {forest : List Node}
    (endsWithTag : EndsWithTag marker before)
    (read : forestOfSource marker (before ++ behind) = .ok forest)
    (ignored : IsIgnored piece.toList) :
    (forestOfSource marker (before ++ piece ++ behind)).map Node.unplacedAll =
      .ok (Node.unplacedAll forest) := by
  obtain ⟨tokens, nodes, reads, spells, same⟩ :=
    forestOfSource_map_eq_ok_iff.mp (congrArg (Except.map Node.unplacedAll) read)
  obtain ⟨front, readsBefore, settled⟩ := endsWithTag.exists_reads
  rw [String.toList_append, readsBefore.append_iff settled] at reads
  obtain ⟨others, shape, readsBehind⟩ := reads
  rw [forestOfSource_map_eq_ok_iff]
  refine ⟨tokens, nodes, ?_, spells, same⟩
  rw [String.toList_append, String.toList_append, List.append_assoc,
    readsBefore.append_iff settled]
  exact ⟨others, shape, ignored.reads readsBehind⟩

/--
Behind a tag or at the beginning, comments and processing instructions vanish, whatever stands in
their bodies, as long as these do not begin with the rest of an ending whose first characters are
the last ones of the opening. Such an opening is a comment or an instruction by itself, and what
was meant to be its body is markup.
-/
theorem forestOfSource_ignored
    (marker : Char)
    {before behind : String}
    {forest : List Node}
    (endsWithTag : EndsWithTag marker before)
    (read : forestOfSource marker (before ++ behind) = .ok forest) :
    (∀ body : String,
      ¬ commentEnding <:+: body.toList →
        ¬ ['>'] <+: body.toList →
          ¬ ['-', '>'] <+: body.toList →
            (forestOfSource marker (before ++ ("<!--" ++ body ++ "-->") ++ behind)).map
                Node.unplacedAll =
              .ok (Node.unplacedAll forest)) ∧
    (∀ body : String,
      ¬ instructionEnding <:+: body.toList →
        ¬ ['>'] <+: body.toList →
          (forestOfSource marker (before ++ ("<?" ++ body ++ "?>") ++ behind)).map
              Node.unplacedAll =
            .ok (Node.unplacedAll forest)) ∧
    ∀ piece ∈ ["<!-->", "<!--->", "<?>"],
      (forestOfSource marker (before ++ piece ++ behind)).map Node.unplacedAll =
        .ok (Node.unplacedAll forest) := by
  refine ⟨fun body noEnding noBracket noDash => ?_, fun body noEnding noBracket => ?_, ?_⟩
  · refine forestOfSource_of_isIgnored endsWithTag read ?_
    rw [String.toList_append, String.toList_append]
    exact .ofCommentBody noEnding noBracket noDash
  · refine forestOfSource_of_isIgnored endsWithTag read ?_
    rw [String.toList_append, String.toList_append]
    exact .ofInstructionBody noEnding noBracket
  · simp only [List.forall_mem_cons, List.not_mem_nil, false_imp_iff, implies_true, and_true]
    refine ⟨forestOfSource_of_isIgnored endsWithTag read ?_,
      forestOfSource_of_isIgnored endsWithTag read ?_,
      forestOfSource_of_isIgnored endsWithTag read ?_⟩
    · rw [show "<!-->".toList = ['<', '!'] ++ commentEnding from rfl]
      exact .comment (by decide) (by decide)
    · rw [show "<!--->".toList = ['<', '!', '-'] ++ commentEnding from rfl]
      exact .comment (by decide) (by decide)
    · rw [show "<?>".toList = ['<'] ++ instructionEnding from rfl]
      exact .instruction (by decide) (by decide)

/-- A comment with a tag in its body, inside of a tag. -/
theorem forestOfSource_ignored_tag :
    EndsWithTag ':' "<label>" ∧
      (forestOfSource ':' "<label></label>").map Node.unplacedAll = .ok [{ name := "label" }] ∧
        (forestOfSource ':' "<label><!-- <b> - -> --></label>").map Node.unplacedAll =
          .ok [{ name := "label" }] := by
  have tokens :
      tokensOfSource ':' "<label>" =
        .ok ([] ++ [⟨.opening "label" false [] false, ⟨1, 1⟩⟩, ⟨.endOfSource, ⟨1, 8⟩⟩]) := by
    decide +kernel
  have endsWithTag : EndsWithTag ':' "<label>" := .inr ⟨[], _, _, tokens, rfl⟩
  have read :
      forestOfSource ':' ("<label>" ++ "</label>") =
        .ok [{ name := "label", position := ⟨1, 1⟩ }] := by
    decide +kernel
  have vanishes := (forestOfSource_ignored ':' endsWithTag read).1 " <b> - -> "
    (by decide +kernel) (by decide +kernel) (by decide +kernel)
  exact ⟨endsWithTag, congrArg (Except.map Node.unplacedAll) read, vanishes⟩

/-- A comment whose body begins with a bracket is text from there on. -/
theorem text_of_comment_overlapping :
    ¬ ∀ (marker : Char) (before behind body : String) (forest : List Node),
        EndsWithTag marker before →
          forestOfSource marker (before ++ behind) = .ok forest →
            ¬ commentEnding <:+: body.toList →
              (forestOfSource marker (before ++ ("<!--" ++ body ++ "-->") ++ behind)).map
                  Node.unplacedAll =
                .ok (Node.unplacedAll forest) := by
  intro vanishes
  have tokens :
      tokensOfSource ':' "<label>" =
        .ok ([] ++ [⟨.opening "label" false [] false, ⟨1, 1⟩⟩, ⟨.endOfSource, ⟨1, 8⟩⟩]) := by
    decide +kernel
  have read :
      forestOfSource ':' ("<label>" ++ "</label>") =
        .ok [{ name := "label", position := ⟨1, 1⟩ }] := by
    decide +kernel
  have leaks :
      (forestOfSource ':' ("<label>" ++ ("<!--" ++ ">hidden" ++ "-->") ++ "</label>")).map
          Node.unplacedAll =
        .ok [{ name := "label", text := "hidden-->" }] := by
    decide +kernel
  have vanished :=
    vanishes ':' "<label>" "</label>" ">hidden" _ (.inr ⟨[], _, _, tokens, rfl⟩) read
      (by decide +kernel)
  rw [leaks] at vanished
  revert vanished
  decide +kernel

end WidgetMarkup.Markup
