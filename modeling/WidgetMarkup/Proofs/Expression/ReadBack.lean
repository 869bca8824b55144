import WidgetMarkup.Expression.Value
import WidgetMarkup.Proofs.Number.DecimalTexts
import WidgetMarkup.Proofs.Number.Numerals
import WidgetMarkup.Proofs.Number.ShortestDigits
import WidgetMarkup.Proofs.Text.Lines

namespace WidgetMarkup.Expression

/-!
# Values that are bound and read back

A bound value is its text, and the text is read again when the name is looked up. Whatever is not
a text comes back with the same truth: the text of a number that is not zero is no text of zero,
however small the number is. A text comes back with another truth exactly if it counts as true and
is read as something that does not.
-/

-- Powers of natural numbers are those of core, also where a library has powers of its own.
attribute [local instance (high)] instPowNat

open Number

/-- Characters without blanks stay as they are when they are trimmed. -/
theorem trimCharacters_of_no_blank
    {characters : List Char}
    (noBlank : ∀ character ∈ characters, Text.isBlank character = false) :
    Text.trimCharacters characters = characters := by
  have noneDropped {list : List Char}
      (noBlank : ∀ character ∈ list, Text.isBlank character = false) :
      list.dropWhile Text.isBlank = list := by
    refine List.dropWhile_eq_self_iff.mpr fun positive => ?_
    rw [noBlank _ (List.getElem_mem positive)]
    decide
  rw [Text.trimCharacters, Text.trimEnd, Text.trimStart, noneDropped noBlank,
    noneDropped (by simpa using noBlank), List.reverse_reverse]

theorem isBlank_of_isDigit
    {character : Char}
    (isDigit : character.isDigit = true) :
    Text.isBlank character = false := by
  rw [isDigit_iff_toNat] at isDigit
  simp only [Text.isBlank, Bool.or_eq_false_iff, Bool.and_eq_false_iff, decide_eq_false_iff_not,
    beq_eq_false_iff_ne]
  omega

section Numerals

variable {negative : Bool} {digits : Nat} {place : Int}

/-- What is written with a sign and a point has no blank in it. -/
theorem not_blank_of_mem_signed
    {character : Char}
    (isThere : character ∈ signed negative (positional digits place)) :
    Text.isBlank character = false := by
  obtain ⟨first, rest, shape, isDigit, areRest⟩ := exists_positional digits place
  have parts : character = '-' ∨ character = first ∨ character ∈ rest := by
    rw [shape] at isThere
    cases negative with
    | false => exact .inr (by simpa [signed] using isThere)
    | true => simpa [signed] using isThere
  rcases parts with rfl | rfl | isInRest
  · decide
  · exact isBlank_of_isDigit isDigit
  · rcases areRest character isInRest with isDigit | rfl
    · exact isBlank_of_isDigit isDigit
    · decide

theorem trim_signed :
    Text.trimCharacters (signed negative (positional digits place)) =
      signed negative (positional digits place) :=
  trimCharacters_of_no_blank fun _ => not_blank_of_mem_signed

/-- What is written with a sign and a point begins with the sign or a digit. -/
theorem exists_signed
    (negative : Bool)
    (digits : Nat)
    (place : Int) :
    ∃ first rest,
      signed negative (positional digits place) = first :: rest ∧
        first.toLower = first ∧ first.toNat < 97 := by
  obtain ⟨first, rest, shape, isDigit, -⟩ := exists_positional digits place
  rw [shape]
  cases negative with
  | false =>
      have range := (isDigit_iff_toNat first).mp isDigit
      exact ⟨_, _, rfl, toLower_of_isDigit isDigit, by omega⟩
  | true =>
      exact ⟨_, _, rfl, rfl, by decide⟩

/-- What is written with a sign and a point is not a word that begins with a letter. -/
theorem sameName_signed
    {word : String}
    (letter : Char)
    (begins : (word.toList.map Char.toLower).head? = some letter)
    (isLetter : 97 ≤ letter.toNat) :
    Text.sameName (String.ofList (signed negative (positional digits place))) word = false := by
  obtain ⟨first, rest, shape, isSmall, range⟩ :=
    exists_signed negative digits place
  rw [← Bool.not_eq_true, Text.sameName_iff_toList, String.toList_ofList, shape]
  intro same
  rw [← same, List.map_cons, isSmall] at begins
  cases begins
  omega

theorem ne_of_sameName_eq_false
    {left right : String}
    (notSame : Text.sameName left right = false) :
    left ≠ right := by
  rintro rfl
  rw [Text.sameName_self] at notSame
  cases notSame

/-- As a text, a written number counts as true. -/
theorem isTruthy_text_signed :
    (Value.text (String.ofList (signed negative (positional digits place)))).isTruthy = true := by
  obtain ⟨first, rest, shape, -⟩ :=
    exists_signed negative digits place
  have notEmpty :
      (String.ofList (signed negative (positional digits place))).isEmpty = false := by
    rw [shape]
    simp
  have notNull : String.ofList (signed negative (positional digits place)) ≠ "null" :=
    ne_of_sameName_eq_false (sameName_signed 'n' rfl (by decide))
  have notFalse :
      Text.sameName (String.ofList (signed negative (positional digits place))) "false" = false :=
    sameName_signed 'f' rfl (by decide)
  simp [Value.isTruthy, notEmpty, notFalse, notNull]

/-- A written number above half of the smallest one counts as true when it is read back. -/
theorem isTruthy_ofBinding_signed
    (positive : 0 < digits)
    (large : place < 0 → 10 ^ place.natAbs < digits * 2 ^ (1075 : Nat)) :
    (Value.ofBinding (String.ofList (signed negative (positional digits place)))).isTruthy =
      true := by
  have notWord {word : String} (letter : Char)
      (begins : (word.toList.map Char.toLower).head? = some letter)
      (isLetter : 97 ≤ letter.toNat) :
      String.ofList (signed negative (positional digits place)) ≠ word :=
    ne_of_sameName_eq_false (sameName_signed letter begins isLetter)
  unfold Value.ofBinding
  rw [Text.trim, String.toList_ofList, trim_signed]
  split
  · rename_i isWord
    exact absurd isWord (notWord 't' rfl (by decide))
  · rename_i isWord
    exact absurd isWord (notWord 'f' rfl (by decide))
  · rename_i isWord
    exact absurd isWord (notWord 'n' rfl (by decide))
  · split
    · rename_i value isNumber
      rw [Value.numberInText?, String.toList_ofList, trim_signed, Double.readFinite?,
        Double.read?, read?_positional, Option.map_some, Option.filter_eq_some_iff] at isNumber
      have isValue := Option.some.inj isNumber.1
      have notZero : (value == 0.0) = false := by
        rw [← isValue]
        split
        · exact Double.ofDecimal_beq_zero negative (Nat.mul_pos positive (Nat.pow_pos (by decide)))
            fun below => absurd below (Int.lt_irrefl 0)
        · exact Double.ofDecimal_beq_zero negative positive large
      rw [Value.isTruthy, bne, notZero, Bool.not_false]
    · exact isTruthy_text_signed

end Numerals

section Numbers

/-- A whole number that is not zero is written with a sign and digits. -/
theorem toString_signed
    {magnitude : Nat}
    (negative : Bool)
    (positive : 0 < magnitude) :
    toString (if negative then -(magnitude : Int) else magnitude) =
      String.ofList (signed negative (positional magnitude 0)) := by
  have isPositional : positional magnitude 0 = Nat.toDigits 10 magnitude := by
    simp [positional]
  rw [isPositional, Int.toString_eq_repr, Int.repr_eq_if]
  cases negative with
  | false =>
      rw [if_neg Bool.false_ne_true, if_pos (Int.natCast_nonneg _), Int.toNat_natCast,
        Nat.repr_eq_ofList_toDigits]
      rfl
  | true =>
      rw [if_pos rfl, if_neg (by omega), Int.neg_neg, Int.toNat_natCast,
        Nat.repr_eq_ofList_toDigits, signed, if_pos rfl, String.ofList_cons]
      rfl

/-- The text of a number that is zero is that of zero, whatever its sign is. -/
theorem renderNumber_of_beq_zero
    {value : Float}
    (isZero : (value == 0.0) = true) :
    Value.renderNumber value = "0" := by
  obtain ⟨negative, decoded⟩ := Double.exists_decode_of_beq_zero isZero
  have isWhole : Double.smallWhole? value = some 0 := by
    rw [Double.smallWhole?, decoded]
    have whole : (Ratio.scaled 2 0 (-1074)).numerator = 0 := rfl
    simp only [whole, Nat.zero_mod, Nat.zero_div]
    cases negative <;> rfl
  rw [Value.renderNumber, isWhole]
  rfl

/-- The text of a finite number that is not zero is a sign and digits for something above half of
the smallest number. -/
theorem exists_renderNumber
    {value : Float}
    {negative : Bool}
    {significand : Nat}
    {exponent : Int}
    (decoded : Double.decode value = .finite negative significand exponent)
    (positive : 0 < significand)
    (notBelow : -1074 ≤ exponent) :
    ∃ digits place,
      Value.renderNumber value = String.ofList (signed negative (positional digits place)) ∧
        0 < digits ∧
        (place < 0 → 10 ^ place.natAbs < digits * 2 ^ (1075 : Nat)) := by
  have isWhole :
      Double.smallWhole? value =
        let ratio := Ratio.scaled 2 significand exponent
        if ratio.numerator % ratio.denominator = 0 ∧
            ratio.numerator / ratio.denominator < 10 ^ (15 : Nat) then
          some (if negative then -((ratio.numerator / ratio.denominator : Nat) : Int)
            else (ratio.numerator / ratio.denominator : Nat))
        else
          none := by
    rw [Double.smallWhole?, decoded]
  simp only at isWhole
  split at isWhole
  · rename_i whole
    have quotientPos :=
      Nat.div_pos
        (Nat.le_of_dvd (Ratio.numerator_scaled_pos (by decide) positive exponent)
          (Nat.dvd_of_mod_eq_zero whole.1))
        (Ratio.denominator_scaled_pos (by decide) significand exponent)
    refine ⟨_, 0, ?_, quotientPos, fun below => absurd below (by decide)⟩
    rw [Value.renderNumber, isWhole]
    exact toString_signed negative quotientPos
  · obtain ⟨digitsPos, large⟩ := RoundingInterval.shortest_large positive notBelow
    refine ⟨_, _, ?_, digitsPos, large⟩
    rw [Value.renderNumber, isWhole]
    simp only
    rw [Double.render, decoded, renderShortest, if_neg positive.ne']
    rfl

/-- A number counts for as much as its text. -/
theorem isTruthy_ofBinding_renderNumber
    (value : Float) :
    (Value.ofBinding (Value.renderNumber value)).isTruthy = (Value.number value).isTruthy := by
  rw [Value.isTruthy.eq_3, bne]
  cases isZero : value == 0.0 with
  | true =>
      rw [renderNumber_of_beq_zero isZero]
      rfl
  | false =>
      rw [Bool.not_false]
      cases decoded : Double.decode value with
      | invalid =>
          have isText : Value.renderNumber value = "NaN" := by
            simp [Value.renderNumber, Double.smallWhole?, Double.render, decoded, renderShortest]
          rw [isText]
          decide +kernel
      | infinite negative =>
          have isText : Value.renderNumber value = if negative then "-inf" else "inf" := by
            simp [Value.renderNumber, Double.smallWhole?, Double.render, decoded, renderShortest]
          rw [isText]
          cases negative <;> decide +kernel
      | finite negative significand exponent =>
          obtain ⟨notBelow, zeroIff⟩ := Double.beq_zero_iff_of_decode decoded
          have positive : 0 < significand := by
            rw [Nat.pos_iff_ne_zero]
            intro none
            rw [zeroIff.mpr none] at isZero
            cases isZero
          obtain ⟨digits, place, isText, digitsPos, large⟩ :=
            exists_renderNumber decoded positive notBelow
          rw [isText]
          exact isTruthy_ofBinding_signed digitsPos large

end Numbers

section Texts

theorem toLower_of_isBlank
    {character : Char}
    (isBlank : Text.isBlank character = true) :
    character.toLower = character := by
  simp only [Text.isBlank, Bool.or_eq_true, Bool.and_eq_true, decide_eq_true_eq,
    beq_iff_eq] at isBlank
  exact toLower_eq_self (by omega)

variable {text : String}

theorem map_toLower_false :
    "false".toList.map Char.toLower = ['f', 'a', 'l', 's', 'e'] :=
  rfl

/-- However the word for what is not true is capitalized, there is no blank in it. -/
theorem trim_of_sameName_false
    (same : Text.sameName text "false" = true) :
    Text.trimCharacters text.toList = text.toList := by
  refine trimCharacters_of_no_blank fun character isThere => ?_
  rw [Text.sameName_iff_toList] at same
  have isLetter := List.mem_map_of_mem (f := Char.toLower) isThere
  rw [same, map_toLower_false] at isLetter
  rw [← Bool.not_eq_true]
  intro isBlank
  rw [toLower_of_isBlank isBlank] at isLetter
  simp only [List.mem_cons, List.not_mem_nil, or_false] at isLetter
  obtain rfl | rfl | rfl | rfl | rfl := isLetter <;> cases isBlank

/-- However the word for what is not true is capitalized, it is no numeral. -/
theorem read?_of_sameName_false
    (same : Text.sameName text "false" = true) :
    Decimal.read? text.toList = none := by
  rw [Text.sameName_iff_toList] at same
  rw [map_toLower_false] at same
  obtain ⟨first, rest, shape⟩ : ∃ first rest, text.toList = first :: rest := by
    cases characters : text.toList with
    | nil =>
        rw [characters] at same
        cases same
    | cons first rest => exact ⟨first, rest, rfl⟩
  rw [shape] at same ⊢
  have isSmall : first.toLower = 'f' := (List.cons.inj same).1
  have notDigit : first.isDigit = false := by
    rw [← Bool.not_eq_true]
    intro isDigit
    rw [← toLower_of_isDigit isDigit, isSmall] at isDigit
    cases isDigit
  have notMark {mark : Char} (stays : mark.toLower ≠ 'f') : first ≠ mark := by
    rintro rfl
    exact stays isSmall
  have notSigned : Decimal.splitSign (first :: rest) = (false, first :: rest) := by
    unfold Decimal.splitSign
    split
    · rename_i isSign
      exact absurd (List.cons.inj isSign).1 (notMark (by decide))
    · rename_i isSign
      exact absurd (List.cons.inj isSign).1 (notMark (by decide))
    · rfl
  have unread : Decimal.readDigits? false (first :: rest) = none := by
    have notPoint : first ≠ '.' := notMark (by decide)
    simp [Decimal.readDigits?, notDigit, notPoint]
  have isWord : String.ofList ['f', 'a', 'l', 's', 'e'] = "false" := rfl
  simp [Decimal.read?, notSigned, same, isWord, unread]

/-- A text that does not count as true is read back as something that does not, either. -/
theorem isTruthy_ofBinding_of_isTruthy_eq_false
    (untrue : (Value.text text).isTruthy = false) :
    (Value.ofBinding text).isTruthy = false := by
  have kinds : text = "" ∨ Text.sameName text "false" = true ∨ text = "null" := by
    rw [Value.isTruthy, Bool.not_eq_false', Bool.or_eq_true, Bool.or_eq_true, or_assoc,
      String.isEmpty_iff, beq_iff_eq] at untrue
    exact untrue
  obtain rfl | same | rfl := kinds
  · rfl
  · have noNumber : Value.numberInText? text = none := by
      rw [Value.numberInText?, trim_of_sameName_false same, Double.readFinite?, Double.read?,
        read?_of_sameName_false same]
      rfl
    unfold Value.ofBinding
    rw [Text.trim, trim_of_sameName_false same, String.ofList_toList]
    split
    · exact absurd same (by decide +kernel)
    · rfl
    · rfl
    · rw [noNumber]
      exact untrue
  · rfl

end Texts

namespace Value

/-- What counts as true but is the text of something that does not: between blanks, a word in small
letters or a number that is zero. -/
def IsMisread : Value → Prop
  | text raw =>
      (Value.text raw).isTruthy = true ∧
        (Text.trim raw = "false" ∨ Text.trim raw = "null" ∨
          ∃ value, numberInText? raw = some value ∧ (value == 0.0) = true)
  | _ => False

end Value

theorem numberInText?_of_trim_eq_true
    {raw : String}
    (isTrue : Text.trim raw = "true") :
    Value.numberInText? raw = none := by
  have characters := congrArg String.toList isTrue
  rw [Text.trim, String.toList_ofList] at characters
  rw [Value.numberInText?, characters]
  rfl

/-- A text that counts as true does so as a binding too, unless it is misread. -/
theorem isTruthy_ofBinding_text_iff
    {raw : String}
    (counts : (Value.text raw).isTruthy = true) :
    (Value.ofBinding raw).isTruthy = true ↔ ¬ (Value.text raw).IsMisread := by
  rw [Value.IsMisread, counts]
  unfold Value.ofBinding
  split
  · rename_i isTrue
    simp [Value.isTruthy, isTrue, numberInText?_of_trim_eq_true isTrue]
  · rename_i isFalse
    exact iff_of_false Bool.false_ne_true fun notMisread => notMisread ⟨rfl, .inl isFalse⟩
  · rename_i isNull
    exact iff_of_false Bool.false_ne_true fun notMisread => notMisread ⟨rfl, .inr (.inl isNull)⟩
  · rename_i notFalse notNull
    replace notFalse : Text.trim raw ≠ "false" := notFalse
    replace notNull : Text.trim raw ≠ "null" := notNull
    cases isNumber : Value.numberInText? raw with
    | none =>
        simp [counts, notFalse, notNull]
    | some value =>
        simp [Value.isTruthy, notFalse, notNull, bne]

/-- A value comes back with the same truth unless it is misread. -/
theorem isTruthy_ofBinding_render_iff
    (value : Value) :
    (Value.ofBinding value.render).isTruthy = value.isTruthy ↔ ¬ value.IsMisread := by
  cases value with
  | null =>
      exact iff_of_true rfl id
  | boolean value =>
      refine iff_of_true ?_ id
      cases value <;> rfl
  | number value =>
      exact iff_of_true (isTruthy_ofBinding_renderNumber value) id
  | text raw =>
      cases counts : (Value.text raw).isTruthy with
      | false =>
          refine iff_of_true (isTruthy_ofBinding_of_isTruthy_eq_false counts) ?_
          rintro ⟨counts', -⟩
          rw [counts] at counts'
          cases counts'
      | true =>
          exact isTruthy_ofBinding_text_iff counts

end WidgetMarkup.Expression
