import WidgetMarkup.Proofs.Number.DecimalTexts
import WidgetMarkup.Proofs.Text.Lines
import WidgetMarkup.Text.Quoted

namespace WidgetMarkup

/-!
# Line feeds

Where line feeds stand in a text: in none that is written between quotes and in no number. Lines
that end in line feeds and have no other are what the line feeds separate.
-/

-- The zero of a sum is that of core, also where a library has a zero of its own.
attribute [local instance (high)] Zero.ofOfNat0

namespace Text

/-- The number of line feeds in a text. -/
def lineFeeds (text : String) : Nat :=
  text.toList.count '\n'

@[simp] theorem lineFeeds_append
    (first second : String) :
    lineFeeds (first ++ second) = lineFeeds first + lineFeeds second := by
  simp [lineFeeds]

theorem lineFeeds_join
    (texts : List String) :
    lineFeeds (String.join texts) = (texts.map lineFeeds).sum := by
  rw [lineFeeds, String.toList_join, List.count_flatMap]
  rfl

theorem lineFeeds_eq_zero_iff
    {text : String} :
    lineFeeds text = 0 ↔ '\n' ∉ text.toList :=
  List.count_eq_zero

/-- The digits of a number are no line feeds. -/
theorem lineFeed_not_mem_hexadecimal
    (number : Nat) :
    '\n' ∉ hexadecimal number := by
  have noDigit : ∀ digit < 16, '\n' ≠ digit.digitChar := by decide
  unfold hexadecimal
  induction number using Nat.strong_induction_on with
  | _ number inductionHypothesis =>
      rw [Nat.toDigits_eq_if (by decide)]
      split
      · rename_i small
        rw [List.mem_singleton]
        exact noDigit number small
      · rw [List.mem_append, List.mem_singleton, not_or]
        exact ⟨inductionHypothesis _ (by omega), noDigit _ (Nat.mod_lt _ (by decide))⟩

theorem lineFeed_not_mem_escapeCharacter
    {quote : Char}
    (notQuote : quote ≠ '\n')
    (character : Char) :
    '\n' ∉ escapeCharacter quote character := by
  unfold escapeCharacter
  split_ifs with isNull isTab isReturn isFeed isEscaped isHidden
  · decide
  · decide
  · decide
  · decide
  · obtain rfl | rfl := isEscaped
    · decide
    · simpa using notQuote.symm
  · have noDigits := lineFeed_not_mem_hexadecimal character.toNat
    simp only [List.mem_append, List.mem_cons, List.not_mem_nil, or_false, not_or]
    exact ⟨⟨by decide, noDigits⟩, by decide⟩
  · simpa using Ne.symm isFeed

/-- A text between quotes stays on its line. -/
theorem lineFeeds_quote
    (text : String) :
    lineFeeds (quote text) = 0 := by
  rw [lineFeeds_eq_zero_iff, quote, String.toList_ofList]
  simp only [List.cons_append, List.mem_cons, List.mem_append, List.mem_flatMap, List.not_mem_nil,
    or_false, not_or, not_exists, not_and]
  exact ⟨by decide, fun character _ => lineFeed_not_mem_escapeCharacter (by decide) character,
    by decide⟩

/-- Lines that end in line feeds are what stands between these. -/
theorem splitCharacters_lines
    {lines : List (List Char)}
    (areLines : ∀ line ∈ lines, '\n' ∉ line) :
    splitCharacters (· == '\n') (lines.flatMap (· ++ ['\n'])) = lines ++ [[]] := by
  rw [splitCharacters_eq_splitOnP]
  induction lines with
  | nil =>
      rfl
  | cons line others inductionHypothesis =>
      rw [List.forall_mem_cons] at areLines
      have noFeed : ∀ character ∈ line, (character == '\n') = false :=
        fun character isThere => beq_false_of_ne (ne_of_mem_of_not_mem isThere areLines.1)
      rw [List.flatMap_cons, List.append_assoc, List.singleton_append,
        List.splitOnP_append_cons_of_forall_mem noFeed '\n' rfl, inductionHypothesis areLines.2]
      rfl

end Text

/-- A number is written on one line. -/
theorem Number.lineFeeds_renderShortest
    (format : BinaryFormat)
    (value : BinaryValue) :
    Text.lineFeeds (renderShortest format value) = 0 := by
  rw [Text.lineFeeds_eq_zero_iff]
  have noPositional (digits : Nat) (place : Int) : '\n' ∉ positional digits place := by
    obtain ⟨first, rest, shape, isDigit, areDigits⟩ := exists_positional digits place
    rw [shape, List.mem_cons, not_or]
    refine ⟨fun isFeed => ?_, fun isThere => ?_⟩
    · rw [← isFeed] at isDigit
      exact absurd isDigit (by decide)
    · exact absurd (areDigits '\n' isThere) (by decide)
  cases value with
  | invalid =>
      simp [renderShortest]
  | infinite negative =>
      cases negative <;> simp [renderShortest]
  | finite negative significand exponent =>
      have noMagnitude :
          '\n' ∉ if significand = 0 then ['0'] else
            positional (RoundingInterval.ofNumber format significand exponent).shortest.1
              (RoundingInterval.ofNumber format significand exponent).shortest.2 := by
        split
        · decide
        · exact noPositional _ _
      cases negative with
      | true =>
          simpa [renderShortest] using noMagnitude
      | false =>
          simpa [renderShortest] using noMagnitude

end WidgetMarkup
