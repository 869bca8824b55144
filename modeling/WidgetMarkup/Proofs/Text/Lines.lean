import Mathlib.Data.List.DropRight
import Mathlib.Data.List.TakeWhile
import WidgetMarkup.Text.Blank

namespace WidgetMarkup.Text

/-!
# Trimmed lines

Texts that are lists of trimmed lines with one line feed between each two. Cutting such a text
into trimmed lines gives the list back, and cutting any text gives a list of this kind, which is
empty exactly if the text is blank.
-/

/-- A line that trimming leaves alone and that holds more than blanks. -/
structure IsTrimmedLine (line : String) : Prop where
  oneLine :
    '\n' ∉ line.toList
  trimmed :
    trim line = line
  notBlank :
    isBlankText line = false

/-- Splitting is the splitting of the library. -/
theorem splitCharacters_eq_splitOnP
    (isSeparator : Char → Bool)
    (characters : List Char) :
    splitCharacters isSeparator characters = characters.splitOnP isSeparator := by
  induction characters with
  | nil =>
      rfl
  | cons character rest inductionHypothesis =>
      obtain ⟨piece, pieces, shape⟩ :=
        List.exists_cons_of_ne_nil (List.splitOnP_ne_nil isSeparator rest)
      rw [List.splitOnP_cons_eq_if_modifyHead]
      simp only [splitCharacters, inductionHypothesis, shape, List.modifyHead_cons]

/-- Separators stand in no piece. -/
theorem not_separator_of_mem_splitOnP
    {isSeparator : Char → Bool}
    {characters piece : List Char}
    (member : piece ∈ characters.splitOnP isSeparator) :
    ∀ character ∈ piece, isSeparator character = false := by
  induction characters generalizing piece with
  | nil =>
      simp only [List.splitOnP_nil, List.mem_singleton] at member
      simp [member]
  | cons first rest inductionHypothesis =>
      rw [List.splitOnP_cons_eq_if_modifyHead] at member
      by_cases separates : isSeparator first = true
      · rw [if_pos separates] at member
        rcases List.mem_cons.mp member with isEmpty | inRest
        · simp [isEmpty]
        · exact inductionHypothesis inRest
      · obtain ⟨head, pieces, shape⟩ :=
          List.exists_cons_of_ne_nil (List.splitOnP_ne_nil isSeparator rest)
        rw [if_neg separates, shape, List.modifyHead_cons] at member
        rcases List.mem_cons.mp member with isHead | inPieces
        · have headPlain := inductionHypothesis (shape ▸ List.mem_cons_self)
          intro character characterMember
          rw [isHead] at characterMember
          rcases List.mem_cons.mp characterMember with isFirst | inHead
          · simpa [isFirst] using separates
          · exact headPlain character inHead
        · exact inductionHypothesis (shape ▸ List.mem_cons_of_mem head inPieces)

/-- The characters of a text satisfy a test that all separators satisfy if its pieces do. -/
theorem all_iff_forall_mem_splitOnP
    {isSeparator test : Char → Bool}
    (separatorsPass : ∀ character, isSeparator character = true → test character = true)
    (characters : List Char) :
    characters.all test = true ↔
      ∀ piece ∈ characters.splitOnP isSeparator, piece.all test = true := by
  induction characters with
  | nil =>
      simp
  | cons first rest inductionHypothesis =>
      rw [List.splitOnP_cons_eq_if_modifyHead]
      by_cases separates : isSeparator first = true
      · rw [if_pos separates]
        simp only [List.all_cons, separatorsPass first separates, Bool.true_and,
          List.forall_mem_cons, List.all_nil, true_and]
        exact inductionHypothesis
      · obtain ⟨head, pieces, shape⟩ :=
          List.exists_cons_of_ne_nil (List.splitOnP_ne_nil isSeparator rest)
        rw [if_neg separates, shape, List.modifyHead_cons]
        rw [shape] at inductionHypothesis
        simp only [List.all_cons, Bool.and_eq_true, List.forall_mem_cons] at inductionHypothesis ⊢
        rw [inductionHypothesis, and_assoc]

theorem trimCharacters_sublist
    (characters : List Char) :
    (trimCharacters characters).Sublist characters :=
  (List.rdropWhile_prefix isBlank (trimStart characters)).sublist.trans
    (List.dropWhile_sublist isBlank)

/-- Trimming leaves nothing exactly if there are only blanks. -/
theorem trimCharacters_eq_nil_iff
    (characters : List Char) :
    trimCharacters characters = [] ↔ characters.all isBlank = true := by
  constructor
  · intro trimmed
    have startBlank : ∀ character ∈ trimStart characters, isBlank character = true :=
      List.rdropWhile_eq_nil_iff.mp trimmed
    rw [← List.takeWhile_append_dropWhile (p := isBlank) (l := characters), List.all_append,
      List.all_takeWhile, Bool.true_and]
    exact List.all_eq_true.mpr startBlank
  · intro blank
    have startEmpty : trimStart characters = [] :=
      List.dropWhile_eq_nil_iff.mpr (List.all_eq_true.mp blank)
    simp [trimCharacters, trimEnd, startEmpty]

theorem trimCharacters_trimCharacters
    (characters : List Char) :
    trimCharacters (trimCharacters characters) = trimCharacters characters := by
  have leading : trimStart (trimCharacters characters) = trimCharacters characters := by
    refine List.dropWhile_eq_self_iff.mpr fun positive => ?_
    obtain ⟨ending, whole⟩ :=
      List.rdropWhile_prefix isBlank (trimStart characters)
    have startPositive : 0 < (trimStart characters).length := by
      rw [← whole, List.length_append]
      exact Nat.lt_of_lt_of_le positive (Nat.le_add_right _ _)
    have sameHead :
        (trimCharacters characters)[0] = (trimStart characters)[0] :=
      List.IsPrefix.getElem ⟨ending, whole⟩ positive
    rw [sameHead]
    exact List.dropWhile_get_zero_not isBlank characters startPositive
  calc
    trimCharacters (trimCharacters characters)
        = trimEnd (trimStart (trimCharacters characters)) := rfl
    _ = trimEnd (trimCharacters characters) := by rw [leading]
    _ = trimCharacters characters := List.rdropWhile_idempotent isBlank (trimStart characters)

/-- Trimming a text leaves nothing exactly if the text is blank. -/
theorem trim_isEmpty_iff
    (text : String) :
    (trim text).isEmpty = true ↔ isBlankText text = true := by
  rw [String.isEmpty_iff, isBlankText, ← trimCharacters_eq_nil_iff]
  constructor
  · intro empty
    simpa [trim] using congrArg String.toList empty
  · intro empty
    simp [trim, empty]

theorem trim_trim
    (text : String) :
    trim (trim text) = trim text := by
  simp [trim, trimCharacters_trimCharacters]

/-- Dropping a carriage return keeps what is blank and what is not. -/
theorem all_isBlank_dropCarriageReturn
    (line : List Char) :
    (dropCarriageReturn line).all isBlank = line.all isBlank := by
  unfold dropCarriageReturn
  split
  · rename_i returns
    obtain ⟨front, rfl⟩ := List.getLast?_eq_some_iff.mp returns
    have : isBlank '\r' = true := by decide
    simp [this]
  · rfl

/-- What dropping a carriage return leaves are characters of the line. -/
theorem dropCarriageReturn_sublist
    (line : List Char) :
    (dropCarriageReturn line).Sublist line := by
  unfold dropCarriageReturn
  split
  · exact List.dropLast_sublist line
  · exact List.Sublist.refl line

/-- The lines between line feeds are blank exactly if the pieces are. -/
theorem forall_mem_linesOfPieces_blank_iff
    (pieces : List (List Char)) :
    (∀ line ∈ linesOfPieces pieces, line.all isBlank = true) ↔
      ∀ piece ∈ pieces, piece.all isBlank = true := by
  fun_induction linesOfPieces pieces with
  | case1 =>
      simp
  | case2 last isEmpty =>
      simp_all
  | case3 last notEmpty =>
      simp
  | case4 piece next pieces inductionHypothesis =>
      rw [List.forall_mem_cons, List.forall_mem_cons, inductionHypothesis,
        all_isBlank_dropCarriageReturn]

/-- Every line is part of a piece. -/
theorem exists_piece_of_mem_linesOfPieces
    {pieces : List (List Char)}
    {line : List Char}
    (member : line ∈ linesOfPieces pieces) :
    ∃ piece ∈ pieces, line.Sublist piece := by
  fun_induction linesOfPieces pieces with
  | case1 =>
      simp at member
  | case2 last isEmpty =>
      simp at member
  | case3 last notEmpty =>
      exact ⟨line, member, List.Sublist.refl line⟩
  | case4 piece next pieces inductionHypothesis =>
      rcases List.mem_cons.mp member with isFirst | inRest
      · exact ⟨piece, List.mem_cons_self, isFirst ▸ dropCarriageReturn_sublist piece⟩
      · obtain ⟨found, foundMember, part⟩ := inductionHypothesis inRest
        exact ⟨found, List.mem_cons_of_mem piece foundMember, part⟩

/-- Pieces that are not empty and end in no carriage return are the lines. -/
theorem linesOfPieces_eq_self
    {pieces : List (List Char)}
    (notEmpty : ∀ piece ∈ pieces, piece ≠ [])
    (noReturn : ∀ piece ∈ pieces, piece.getLast? ≠ some '\r') :
    linesOfPieces pieces = pieces := by
  fun_induction linesOfPieces pieces with
  | case1 =>
      rfl
  | case2 last isEmpty =>
      simp_all
  | case3 last notEmpty =>
      rfl
  | case4 piece next pieces inductionHypothesis =>
      rw [List.forall_mem_cons] at notEmpty noReturn
      rw [inductionHypothesis notEmpty.2 noReturn.2]
      simp [dropCarriageReturn, noReturn.1]

namespace IsTrimmedLine

theorem toList_ne_nil
    {line : String}
    (isLine : IsTrimmedLine line) :
    line.toList ≠ [] := by
  intro empty
  have notBlank := isLine.notBlank
  simp [isBlankText, empty] at notBlank

/-- A trimmed line does not end in a carriage return. -/
theorem getLast?_ne_return
    {line : String}
    (isLine : IsTrimmedLine line) :
    line.toList.getLast? ≠ some '\r' := by
  intro returns
  have trimmed : trimEnd (trimStart line.toList) = line.toList := by
    simpa [trim, trimCharacters] using congrArg String.toList isLine.trimmed
  have settled : trimEnd line.toList = line.toList := by
    rw [← trimmed]
    exact List.rdropWhile_idempotent isBlank (trimStart line.toList)
  have ending :=
    List.rdropWhile_eq_self_iff.mp settled isLine.toList_ne_nil
  rw [List.getLast?_eq_some_getLast isLine.toList_ne_nil, Option.some.injEq] at returns
  rw [returns] at ending
  exact ending (by decide)

end IsTrimmedLine

/-- Cutting into trimmed lines gives trimmed lines. -/
theorem isTrimmedLine_of_mem_trimmedLines
    {text line : String}
    (member : line ∈ trimmedLines text) :
    IsTrimmedLine line := by
  obtain ⟨inTrimmed, notEmpty⟩ := List.mem_filter.mp member
  obtain ⟨raw, rawMember, rfl⟩ := List.mem_map.mp inTrimmed
  obtain ⟨characters, charactersMember, rfl⟩ := List.mem_map.mp rawMember
  obtain ⟨piece, pieceMember, part⟩ := exists_piece_of_mem_linesOfPieces charactersMember
  rw [splitCharacters_eq_splitOnP] at pieceMember
  refine ⟨?_, trim_trim _, ?_⟩
  · intro feed
    have inPiece : '\n' ∈ piece := by
      have inCharacters : '\n' ∈ trimCharacters characters := by simpa [trim] using feed
      exact part.subset ((trimCharacters_sublist characters).subset inCharacters)
    simpa using not_separator_of_mem_splitOnP pieceMember '\n' inPiece
  · rw [← Bool.not_eq_true, ← trim_isEmpty_iff, trim_trim]
    simpa using notEmpty

/-- Cutting gives no trimmed line exactly if the text is blank. -/
theorem trimmedLines_eq_nil_iff
    (text : String) :
    trimmedLines text = [] ↔ isBlankText text = true := by
  have feedBlank : ∀ character, (character == '\n') = true → isBlank character = true := by
    intro character isFeed
    rw [beq_iff_eq.mp isFeed]
    decide
  rw [isBlankText, all_iff_forall_mem_splitOnP feedBlank, ← splitCharacters_eq_splitOnP,
    ← forall_mem_linesOfPieces_blank_iff]
  simp only [trimmedLines, lines, List.filter_eq_nil_iff, List.forall_mem_map, Bool.not_eq_true',
    Bool.not_eq_false, trim_isEmpty_iff, isBlankText, String.toList_ofList]

/-- Trimmed lines with line feeds between them are cut into these lines again. -/
theorem trimmedLines_join
    {texts : List String}
    (areLines : ∀ line ∈ texts, IsTrimmedLine line) :
    trimmedLines (join "\n" texts) = texts := by
  have separate :
      linesOfPieces (splitCharacters (· == '\n') (join "\n" texts).toList) =
        texts.map String.toList := by
    by_cases none : texts = []
    · subst none
      rfl
    · have cut :
          splitCharacters (· == '\n') (join "\n" texts).toList = texts.map String.toList := by
        rw [splitCharacters_eq_splitOnP, join, String.toList_intercalate,
          ← List.splitOn_eq_splitOnP]
        refine List.splitOn_intercalate '\n' ?_ (by simpa using none)
        simpa using fun line member => (areLines line member).oneLine
      rw [cut]
      refine linesOfPieces_eq_self ?_ ?_
      · simpa using fun line member => (areLines line member).toList_ne_nil
      · simpa using fun line member => (areLines line member).getLast?_ne_return
  have unchanged : texts.map trim = texts := by
    rw [List.map_congr_left fun line member => (areLines line member).trimmed, List.map_id']
  have kept : (texts.filter fun line => !line.isEmpty) = texts := by
    refine List.filter_eq_self.mpr fun line member => ?_
    simpa using (areLines line member).toList_ne_nil
  rw [trimmedLines, lines, separate]
  simp [Function.comp_def, unchanged, kept]

end WidgetMarkup.Text
