import WidgetMarkup.Proofs.Markup.Rendering
import WidgetMarkup.Proofs.Number.NaturalNumerals

namespace WidgetMarkup.Markup

open Number

/-!
# The grammar of references

A reference is a name or a number between an ampersand and a semicolon. A text is decoded from left
to right: references become their characters, which are not looked at again, and everything else
stays. By the grammar the digits of a number follow its hash sign or the letter behind that. Decoding
takes one plus sign in front of the digits as well, and is the decoding by the grammar on all texts
that hold no such reference.
-/

/-- The names of references. -/
def namedReferences : List (String × Char) :=
  [("lt", '<'), ("gt", '>'), ("amp", '&'), ("quot", '\x22'), ("apos", '\x27')]

/-- The numbers that stand for characters, with one of the given signs in front of their digits. -/
inductive IsNumericReference (signs : List String) : List Char → Char → Prop where
  | decimal
      {sign : String}
      {digits : List Char}
      {number : Nat} :
      sign ∈ signs →
      IsNumeral 10 digits number →
      number.isValidChar →
      IsNumericReference signs ('#' :: (sign.toList ++ digits)) (Char.ofNat number)
  | hexadecimal
      {sign : String}
      {digits : List Char}
      {number : Nat} :
      sign ∈ signs →
      IsNumeral 16 digits number →
      number.isValidChar →
      IsNumericReference signs ('#' :: 'x' :: (sign.toList ++ digits)) (Char.ofNat number)

/-- What may stand between the ampersand and the semicolon of a reference, and its character. -/
def IsReference (signs : List String) (body : List Char) (character : Char) : Prop :=
  (∃ name, body = name.toList ∧ (name, character) ∈ namedReferences) ∨
    IsNumericReference signs body character

/-- Whether an ampersand would begin a reference in front of a text. -/
def BeginsReference (signs : List String) (rest : List Char) : Prop :=
  ∃ body behind referenced, rest = body ++ ';' :: behind ∧ IsReference signs body referenced

/--
A text and what it is decoded to. A character stays as it is unless it is the ampersand of a
reference.
-/
inductive Decodes (signs : List String) : List Char → List Char → Prop where
  | nothing :
      Decodes signs [] []
  | reference
      {body rest decoded : List Char}
      {character : Char} :
      IsReference signs body character →
      Decodes signs rest decoded →
      Decodes signs ('&' :: (body ++ ';' :: rest)) (character :: decoded)
  | verbatim
      {character : Char}
      {rest decoded : List Char} :
      (character = '&' → ¬ BeginsReference signs rest) →
      Decodes signs rest decoded →
      Decodes signs (character :: rest) (character :: decoded)

/-- Whether a text holds a reference with a plus sign in front of its digits. -/
def HasSignedReference (characters : List Char) : Prop :=
  ∃ body behind character,
    '&' :: (body ++ ';' :: behind) <:+ characters ∧ IsNumericReference ["+"] body character

section References

variable {signs : List String} {body : List Char} {character : Char}

theorem IsNumericReference.mono
    {more : List String}
    (isReference : IsNumericReference signs body character)
    (fewer : signs ⊆ more) :
    IsNumericReference more body character := by
  cases isReference with
  | decimal isSign isNumeral isValid =>
      exact .decimal (fewer isSign) isNumeral isValid
  | hexadecimal isSign isNumeral isValid =>
      exact .hexadecimal (fewer isSign) isNumeral isValid

theorem IsReference.mono
    {more : List String}
    (isReference : IsReference signs body character)
    (fewer : signs ⊆ more) :
    IsReference more body character :=
  isReference.imp_right (·.mono fewer)

/-- A number with a sign has the sign or has none. -/
theorem IsNumericReference.signed_or_unsigned
    (isReference : IsNumericReference ["", "+"] body character) :
    IsNumericReference [""] body character ∨ IsNumericReference ["+"] body character := by
  cases isReference with
  | decimal isSign isNumeral isValid =>
      rw [List.mem_pair] at isSign
      obtain rfl | rfl := isSign
      · exact .inl (.decimal (by simp) isNumeral isValid)
      · exact .inr (.decimal (by simp) isNumeral isValid)
  | hexadecimal isSign isNumeral isValid =>
      rw [List.mem_pair] at isSign
      obtain rfl | rfl := isSign
      · exact .inl (.hexadecimal (by simp) isNumeral isValid)
      · exact .inr (.hexadecimal (by simp) isNumeral isValid)

/-- A character that is no digit stands in a reference only if it is one of a few. -/
theorem not_mem_of_isReference
    {other : Char}
    (isReference : IsReference signs body character)
    (inNoName : ∀ entry ∈ namedReferences, other ∉ entry.1.toList)
    (noDigit : Text.digitValue? other = none)
    (noMark : other ≠ '#' ∧ other ≠ 'x')
    (inNoSign : ∀ sign ∈ signs, other ∉ sign.toList) :
    other ∉ body := by
  obtain ⟨name, rfl, isName⟩ | isNumeric := isReference
  · exact inNoName _ isName
  · cases isNumeric with
    | decimal isSign isNumeral =>
        simp only [List.mem_cons, List.mem_append, not_or]
        exact ⟨noMark.1, inNoSign _ isSign, isNumeral.not_mem noDigit⟩
    | hexadecimal isSign isNumeral =>
        simp only [List.mem_cons, List.mem_append, not_or]
        exact ⟨noMark.1, noMark.2, inNoSign _ isSign, isNumeral.not_mem noDigit⟩

/-- A reference that goes by the grammar has no plus sign. -/
theorem not_isNumericReference_of_isReference
    {other : Char}
    (isReference : IsReference [""] body character) :
    ¬ IsNumericReference ["+"] body other := by
  have noPlus : '+' ∉ body :=
    not_mem_of_isReference isReference (by decide) (by decide) (by decide) (by decide)
  intro isSigned
  cases isSigned with
  | decimal isSign =>
      rw [List.mem_singleton] at isSign
      exact noPlus (by simp [isSign])
  | hexadecimal isSign =>
      rw [List.mem_singleton] at isSign
      exact noPlus (by simp [isSign])

/-- What is a number stands for a character exactly if it is the number of one. -/
theorem characterOfNumber?_eq_some_iff
    {number : Nat} :
    characterOfNumber? number = some character ↔
      number.isValidChar ∧ character = Char.ofNat number := by
  unfold characterOfNumber?
  split <;> simp_all [eq_comm]

/-- The number of a character is below the limit for numbers. -/
theorem lt_size_of_isValidChar
    {number : Nat}
    (isValid : number.isValidChar) :
    number < UInt32.size := by
  unfold Nat.isValidChar at isValid
  unfold UInt32.size
  omega

/-- The digits of a decimal number do not begin with the letter of hexadecimal ones. -/
theorem referenceNumber?_decimal
    {sign : String}
    {digits : List Char}
    {number : Nat}
    (isSign : sign ∈ ["", "+"])
    (isNumeral : IsNumeral 10 digits number) :
    referenceNumber? ('#' :: (sign.toList ++ digits)) =
      readNatural? 10 UInt32.size (sign.toList ++ digits) := by
  unfold referenceNumber?
  split
  · rename_i rest shape
    have isThere : 'x' ∈ sign.toList ++ digits := by
      rw [(List.cons.inj shape).2]
      exact List.mem_cons_self
    rw [List.mem_append] at isThere
    obtain inSign | inDigits := isThere
    · rw [List.mem_pair] at isSign
      obtain rfl | rfl := isSign <;> simp at inSign
    · exact absurd inDigits (isNumeral.not_mem (by decide))
  · rename_i rest _ shape
    rw [(List.cons.inj shape).2]
  · rename_i notNumber
    exact absurd rfl (notNumber _)

/-- The character of a number between ampersand and semicolon. -/
theorem bind_referenceNumber?_eq_some_iff :
    (referenceNumber? body).bind characterOfNumber? = some character ↔
      IsNumericReference ["", "+"] body character := by
  constructor
  · intro isCharacter
    obtain ⟨number, isNumber, isOfNumber⟩ := Option.bind_eq_some_iff.mp isCharacter
    obtain ⟨isValid, rfl⟩ := characterOfNumber?_eq_some_iff.mp isOfNumber
    unfold referenceNumber? at isNumber
    split at isNumber
    · obtain ⟨⟨sign, isSign, digits, rfl, isNumeral⟩, -⟩ := readNatural?_eq_some_iff.mp isNumber
      exact .hexadecimal isSign isNumeral isValid
    · obtain ⟨⟨sign, isSign, digits, rfl, isNumeral⟩, -⟩ := readNatural?_eq_some_iff.mp isNumber
      exact .decimal isSign isNumeral isValid
    · cases isNumber
  · intro isReference
    cases isReference with
    | @decimal sign digits number isSign isNumeral isValid =>
        rw [referenceNumber?_decimal isSign isNumeral, Option.bind_eq_some_iff]
        exact ⟨number,
          readNatural?_eq_some_iff.mpr
            ⟨⟨sign, isSign, digits, rfl, isNumeral⟩, lt_size_of_isValidChar isValid⟩,
          characterOfNumber?_eq_some_iff.mpr ⟨isValid, rfl⟩⟩
    | @hexadecimal sign digits number isSign isNumeral isValid =>
        rw [Option.bind_eq_some_iff]
        exact ⟨number,
          readNatural?_eq_some_iff.mpr
            ⟨⟨sign, isSign, digits, rfl, isNumeral⟩, lt_size_of_isValidChar isValid⟩,
          characterOfNumber?_eq_some_iff.mpr ⟨isValid, rfl⟩⟩

/-- The character of what stands between ampersand and semicolon is that of the reference. -/
theorem referencedCharacter?_eq_some_iff :
    referencedCharacter? body = some character ↔ IsReference ["", "+"] body character := by
  constructor
  · intro isCharacter
    unfold referencedCharacter? at isCharacter
    split at isCharacter
    · cases isCharacter
      exact .inl ⟨"lt", rfl, by decide⟩
    · cases isCharacter
      exact .inl ⟨"gt", rfl, by decide⟩
    · cases isCharacter
      exact .inl ⟨"amp", rfl, by decide⟩
    · cases isCharacter
      exact .inl ⟨"quot", rfl, by decide⟩
    · cases isCharacter
      exact .inl ⟨"apos", rfl, by decide⟩
    · exact .inr (bind_referenceNumber?_eq_some_iff.mp isCharacter)
  · rintro (⟨name, rfl, isName⟩ | isNumeric)
    · have named :
          ∀ entry ∈ namedReferences, referencedCharacter? entry.1.toList = some entry.2 := by
        decide
      exact named _ isName
    · have isCharacter := bind_referenceNumber?_eq_some_iff.mpr isNumeric
      cases isNumeric <;> exact isCharacter

/-- The first semicolon is the one with none in front of it. -/
theorem splitAtSemicolon?_eq_some_iff
    {characters before behind : List Char} :
    splitAtSemicolon? characters = some (before, behind) ↔
      characters = before ++ ';' :: behind ∧ ';' ∉ before := by
  induction characters generalizing before with
  | nil =>
      simp [splitAtSemicolon?]
  | cons first rest inductionHypothesis =>
      unfold splitAtSemicolon?
      split
      · rename_i isSemicolon
        subst isSemicolon
        cases before with
        | nil =>
            simp [eq_comm]
        | cons first others =>
            constructor
            · intro same
              cases same
            · rintro ⟨shape, noneBefore⟩
              exact absurd (List.mem_cons.mpr (.inl (List.cons.inj shape).1)) noneBefore
      · rename_i isOther
        rw [Option.map_eq_some_iff]
        constructor
        · rintro ⟨⟨others, behind'⟩, found, same⟩
          cases same
          obtain ⟨rfl, noneBefore⟩ := inductionHypothesis.mp found
          exact ⟨rfl, by simpa [noneBefore] using Ne.symm isOther⟩
        · rintro ⟨shape, noneBefore⟩
          cases before with
          | nil =>
              exact absurd (List.cons.inj shape).1 isOther
          | cons first' others =>
              obtain ⟨rfl, rfl⟩ := List.cons.inj shape
              rw [List.mem_cons, not_or] at noneBefore
              exact ⟨(others, behind), inductionHypothesis.mpr ⟨rfl, noneBefore.2⟩, rfl⟩

/-- No reference has a semicolon in it, whatever sign it has. -/
theorem semicolon_not_mem
    (isReference : IsReference ["", "+"] body character) :
    ';' ∉ body :=
  not_mem_of_isReference isReference (by decide) (by decide) (by decide) (by decide)

theorem ampersand_not_mem
    (isReference : IsReference ["", "+"] body character) :
    '&' ∉ body :=
  not_mem_of_isReference isReference (by decide) (by decide) (by decide) (by decide)

/-- What is read behind an ampersand is a reference up to its semicolon. -/
theorem readReference?_eq_some_iff
    {characters behind : List Char} :
    readReference? characters = some (character, behind) ↔
      ∃ body, characters = body ++ ';' :: behind ∧ IsReference ["", "+"] body character := by
  unfold readReference?
  constructor
  · intro found
    split at found
    · rename_i body behind' split
      obtain ⟨referenced, isCharacter, same⟩ := Option.map_eq_some_iff.mp found
      cases same
      exact ⟨body, (splitAtSemicolon?_eq_some_iff.mp split).1,
        referencedCharacter?_eq_some_iff.mp isCharacter⟩
    · cases found
  · rintro ⟨body, rfl, isReference⟩
    have split :=
      splitAtSemicolon?_eq_some_iff.mpr
        ⟨(rfl : body ++ ';' :: behind = _), semicolon_not_mem isReference⟩
    rw [split]
    simp only [referencedCharacter?_eq_some_iff.mpr isReference, Option.map_some]

/-- What stands behind an ampersand is at most one reference. -/
theorem IsReference.unique
    {body' behind behind' : List Char}
    {character' : Char}
    (isReference : IsReference ["", "+"] body character)
    (isReference' : IsReference ["", "+"] body' character')
    (same : body ++ ';' :: behind = body' ++ ';' :: behind') :
    body = body' ∧ behind = behind' ∧ character = character' := by
  have split :=
    splitAtSemicolon?_eq_some_iff.mpr
      ⟨(rfl : body ++ ';' :: behind = _), semicolon_not_mem isReference⟩
  have split' := splitAtSemicolon?_eq_some_iff.mpr ⟨same, semicolon_not_mem isReference'⟩
  cases split.symm.trans split'
  have isCharacter := referencedCharacter?_eq_some_iff.mpr isReference
  have isCharacter' := referencedCharacter?_eq_some_iff.mpr isReference'
  exact ⟨rfl, rfl, Option.some.inj (isCharacter.symm.trans isCharacter')⟩

end References

section Decoding

variable {signs : List String} {characters rest decoded : List Char} {character : Char}

namespace Decodes

/-- The first character is that of a reference or stays as it is. -/
theorem reference_or_verbatim
    (decodes : Decodes signs (character :: rest) decoded) :
    (∃ body behind referenced others,
      character = '&' ∧
        rest = body ++ ';' :: behind ∧
          IsReference signs body referenced ∧
            decoded = referenced :: others ∧ Decodes signs behind others) ∨
      ∃ others,
        (character = '&' → ¬ BeginsReference signs rest) ∧
          decoded = character :: others ∧ Decodes signs rest others := by
  generalize shape : character :: rest = whole at decodes
  cases decodes with
  | nothing =>
      cases shape
  | reference isReference decodesRest =>
      cases shape
      exact .inl ⟨_, _, _, _, rfl, rfl, isReference, rfl, decodesRest⟩
  | verbatim notReference decodesRest =>
      cases shape
      exact .inr ⟨_, notReference, rfl, decodesRest⟩

/-- A reference is decoded to its character. -/
theorem of_reference
    {body : List Char}
    (isReference : IsReference signs body character)
    (fewer : signs ⊆ ["", "+"])
    (decodes : Decodes signs ('&' :: (body ++ ';' :: rest)) decoded) :
    ∃ others, decoded = character :: others ∧ Decodes signs rest others := by
  obtain ⟨_, _, _, others, -, same, isReference', rfl, decodesRest⟩ | ⟨_, notReference, -⟩ :=
    decodes.reference_or_verbatim
  · obtain ⟨rfl, rfl, rfl⟩ := (isReference.mono fewer).unique (isReference'.mono fewer) same
    exact ⟨others, rfl, decodesRest⟩
  · exact absurd ⟨body, rest, character, rfl, isReference⟩ (notReference rfl)

/-- What begins no reference is decoded to itself. -/
theorem of_verbatim
    (notReference : character = '&' → ¬ BeginsReference signs rest)
    (decodes : Decodes signs (character :: rest) decoded) :
    ∃ others, decoded = character :: others ∧ Decodes signs rest others := by
  obtain ⟨body, behind, referenced, _, isAmpersand, shape, isReference, -⟩ | ⟨others, -, found⟩ :=
    decodes.reference_or_verbatim
  · exact absurd ⟨body, behind, referenced, shape, isReference⟩ (notReference isAmpersand)
  · exact ⟨others, found⟩

/-- Characters without an ampersand are decoded to themselves. -/
theorem of_append
    {front : List Char}
    (noAmpersand : '&' ∉ front)
    (decodes : Decodes signs (front ++ rest) decoded) :
    ∃ others, decoded = front ++ others ∧ Decodes signs rest others := by
  induction front generalizing decoded with
  | nil =>
      exact ⟨decoded, rfl, decodes⟩
  | cons first front inductionHypothesis =>
      rw [List.mem_cons, not_or] at noAmpersand
      obtain ⟨_, rfl, decodesRest⟩ :=
        decodes.of_verbatim fun isAmpersand => absurd isAmpersand.symm noAmpersand.1
      obtain ⟨others, rfl, decodesBehind⟩ := inductionHypothesis noAmpersand.2 decodesRest
      exact ⟨others, rfl, decodesBehind⟩

/-- By a grammar that admits no other signs, a text is decoded in one way only. -/
theorem unique
    {decoded' : List Char}
    (decodes : Decodes signs characters decoded)
    (fewer : signs ⊆ ["", "+"])
    (decodes' : Decodes signs characters decoded') :
    decoded = decoded' := by
  induction decodes generalizing decoded' with
  | nothing =>
      cases decodes'
      rfl
  | reference isReference _ inductionHypothesis =>
      obtain ⟨others, rfl, decodesRest⟩ := decodes'.of_reference isReference fewer
      rw [inductionHypothesis decodesRest]
  | verbatim notReference _ inductionHypothesis =>
      obtain ⟨others, rfl, decodesRest⟩ := decodes'.of_verbatim notReference
      rw [inductionHypothesis decodesRest]

end Decodes

/-- Every text is decoded by every grammar. -/
theorem exists_decodes
    (signs : List String)
    (characters : List Char) :
    ∃ decoded, Decodes signs characters decoded := by
  induction length : characters.length using Nat.strong_induction_on generalizing characters with
  | _ length inductionHypothesis =>
      subst length
      cases characters with
      | nil =>
          exact ⟨[], .nothing⟩
      | cons character rest =>
          by_cases begins : character = '&' ∧ BeginsReference signs rest
          · obtain ⟨rfl, body, behind, referenced, rfl, isReference⟩ := begins
            obtain ⟨decoded, decodes⟩ :=
              inductionHypothesis behind.length (by simp; omega) behind rfl
            exact ⟨_, .reference isReference decodes⟩
          · obtain ⟨decoded, decodes⟩ := inductionHypothesis rest.length (by simp) rest rfl
            exact ⟨_, .verbatim (fun isAmpersand isBegun => begins ⟨isAmpersand, isBegun⟩) decodes⟩

/-- Decoding is by the grammar that admits plus signs. -/
theorem decodes_decodeCharacters
    (characters : List Char) :
    Decodes ["", "+"] characters (decodeCharacters characters) := by
  fun_induction decodeCharacters characters with
  | case1 =>
      exact .nothing
  | case2 character rest isOpening decoded after found inductionHypothesis =>
      obtain rfl : character = '&' := by simpa [isReferenceOpening] using isOpening
      obtain ⟨body, rfl, isReference⟩ := readReference?_eq_some_iff.mp found
      exact .reference isReference inductionHypothesis
  | case3 character rest isOpening notFound inductionHypothesis =>
      refine .verbatim ?_ inductionHypothesis
      rintro - ⟨body, _, _, shape, isReference⟩
      have found := readReference?_eq_some_iff.mpr ⟨body, shape, isReference⟩
      rw [notFound] at found
      cases found
  | case4 character rest notOpening inductionHypothesis =>
      refine .verbatim (fun isAmpersand => ?_) inductionHypothesis
      subst isAmpersand
      exact absurd rfl notOpening

end Decoding

section Signs

variable {characters rest : List Char}

/-- A signed reference behind characters without an ampersand is behind all of them. -/
theorem HasSignedReference.of_append
    {front : List Char}
    (noAmpersand : '&' ∉ front)
    (isSigned : HasSignedReference (front ++ rest)) :
    HasSignedReference rest := by
  induction front with
  | nil =>
      exact isSigned
  | cons first front inductionHypothesis =>
      rw [List.mem_cons, not_or] at noAmpersand
      obtain ⟨body, behind, character, stands, isNumeric⟩ := isSigned
      obtain same | further := List.suffix_cons_iff.mp stands
      · exact absurd (List.cons.inj same).1 noAmpersand.1
      · exact inductionHypothesis noAmpersand.2 ⟨body, behind, character, further, isNumeric⟩

/-- A signed reference stands at the beginning or further on. -/
theorem HasSignedReference.begins_or_behind
    {character : Char}
    (isSigned : HasSignedReference (character :: rest)) :
    (∃ body behind referenced,
      character = '&' ∧
        rest = body ++ ';' :: behind ∧ IsNumericReference ["+"] body referenced) ∨
      HasSignedReference rest := by
  obtain ⟨body, behind, referenced, stands, isNumeric⟩ := isSigned
  obtain same | further := List.suffix_cons_iff.mp stands
  · cases same
    exact .inl ⟨body, behind, referenced, rfl, rfl, isNumeric⟩
  · exact .inr ⟨body, behind, referenced, further, isNumeric⟩

/--
By the grammar a text is decoded to no less than by the one that admits plus signs, and to more if
it has a reference with such a sign.
-/
theorem Decodes.length_le
    {decoded strictly : List Char}
    (decodes : Decodes ["", "+"] characters decoded)
    (decodesStrictly : Decodes [""] characters strictly) :
    decoded.length ≤ strictly.length ∧
      (HasSignedReference characters → decoded.length < strictly.length) := by
  induction decodes generalizing strictly with
  | nothing =>
      refine ⟨Nat.zero_le _, ?_⟩
      rintro ⟨body, behind, character, stands, -⟩
      cases List.suffix_nil.mp stands
  | @reference body rest decoded character isReference _ inductionHypothesis =>
      have noAmpersand : '&' ∉ body ++ [';'] := by
        simpa using ampersand_not_mem isReference
      by_cases isStrict : IsReference [""] body character
      · obtain ⟨others, rfl, decodesRest⟩ := decodesStrictly.of_reference isStrict (by simp)
        obtain ⟨noMore, less⟩ := inductionHypothesis decodesRest
        refine ⟨Nat.succ_le_succ noMore, fun isSigned => Nat.succ_lt_succ (less ?_)⟩
        obtain ⟨body', behind, other, -, same, isNumeric⟩ | further := isSigned.begins_or_behind
        · obtain ⟨rfl, -⟩ := isReference.unique (.inr (isNumeric.mono (by simp))) same
          exact absurd isNumeric (not_isNumericReference_of_isReference isStrict)
        · rw [List.append_cons] at further
          exact further.of_append noAmpersand
      · have notBegun : ¬ BeginsReference [""] (body ++ ';' :: rest) := by
          rintro ⟨body', behind, other, same, isOther⟩
          obtain ⟨rfl, -, rfl⟩ := isReference.unique (isOther.mono (by simp)) same
          exact isStrict isOther
        obtain ⟨_, rfl, decodesBody⟩ := decodesStrictly.of_verbatim fun _ => notBegun
        rw [List.append_cons] at decodesBody
        obtain ⟨others, rfl, decodesRest⟩ := decodesBody.of_append noAmpersand
        have noMore := (inductionHypothesis decodesRest).1
        simp only [List.length_cons, List.length_append, List.length_nil]
        omega
  | @verbatim character rest decoded notReference _ inductionHypothesis =>
      have notStrict : character = '&' → ¬ BeginsReference [""] rest :=
        fun isAmpersand ⟨body, behind, referenced, shape, isReference⟩ =>
          notReference isAmpersand ⟨body, behind, referenced, shape, isReference.mono (by simp)⟩
      obtain ⟨others, rfl, decodesRest⟩ := decodesStrictly.of_verbatim notStrict
      obtain ⟨noMore, less⟩ := inductionHypothesis decodesRest
      refine ⟨Nat.succ_le_succ noMore, fun isSigned => Nat.succ_lt_succ (less ?_)⟩
      obtain ⟨body, behind, referenced, isAmpersand, shape, isNumeric⟩ | further :=
        isSigned.begins_or_behind
      · exact absurd ⟨body, behind, referenced, shape, .inr (isNumeric.mono (by simp))⟩
          (notReference isAmpersand)
      · exact further

/-- Without a signed reference, both grammars decode alike. -/
theorem Decodes.strictly
    {decoded : List Char}
    (decodes : Decodes ["", "+"] characters decoded)
    (noneSigned : ¬ HasSignedReference characters) :
    Decodes [""] characters decoded := by
  induction decodes with
  | nothing =>
      exact .nothing
  | @reference body rest decoded character isReference _ inductionHypothesis =>
      have noneFurther : ¬ HasSignedReference rest := by
        rintro ⟨body', behind, other, stands, isNumeric⟩
        refine noneSigned ⟨body', behind, other, stands.trans ?_, isNumeric⟩
        exact ⟨'&' :: (body ++ [';']), by simp⟩
      refine .reference (isReference.imp_right fun isNumeric => ?_)
        (inductionHypothesis noneFurther)
      refine isNumeric.signed_or_unsigned.resolve_right fun isSigned => noneSigned ?_
      exact ⟨body, rest, character, List.suffix_refl _, isSigned⟩
  | @verbatim character rest decoded notReference _ inductionHypothesis =>
      have noneFurther : ¬ HasSignedReference rest :=
        fun ⟨body, behind, other, stands, isNumeric⟩ =>
          noneSigned ⟨body, behind, other, stands.trans (List.suffix_cons _ _), isNumeric⟩
      refine .verbatim ?_ (inductionHypothesis noneFurther)
      rintro isAmpersand ⟨body, behind, referenced, shape, isReference⟩
      exact notReference isAmpersand
        ⟨body, behind, referenced, shape, isReference.mono (by simp)⟩

end Signs

/--
A text is decoded in one pass from left to right, by the grammar that admits one plus sign in front
of the digits of a number. The grammar without signs decodes every text in one way, too, and it is
the same way exactly if the text holds no reference with a plus sign.
-/
theorem decodeReferences_decodes
    (text : String) :
    (∀ decoded : String,
      Decodes ["", "+"] text.toList decoded.toList ↔ decoded = decodeReferences text) ∧
    (∃! decoded, Decodes [""] text.toList decoded) ∧
    (Decodes [""] text.toList (decodeReferences text).toList ↔
      ¬ HasSignedReference text.toList) := by
  have decodes : Decodes ["", "+"] text.toList (decodeReferences text).toList := by
    rw [decodeReferences, String.toList_ofList]
    exact decodes_decodeCharacters text.toList
  refine ⟨fun decoded => ⟨fun decodesSo => ?_, ?_⟩, ?_, ?_⟩
  · exact String.toList_inj.mp (decodesSo.unique (List.Subset.refl _) decodes)
  · rintro rfl
    exact decodes
  · obtain ⟨decoded, decodesStrictly⟩ := exists_decodes [""] text.toList
    exact ⟨decoded, decodesStrictly, fun _ other => other.unique (by simp) decodesStrictly⟩
  · refine ⟨fun decodesStrictly isSigned => ?_, decodes.strictly⟩
    exact Nat.lt_irrefl _ ((decodes.length_le decodesStrictly).2 isSigned)

/-- A number with a plus sign in front of it is no reference by the grammar, but is decoded. -/
theorem decodeReferences_signed :
    ¬ ∀ text : String, Decodes [""] text.toList (decodeReferences text).toList := by
  intro byGrammar
  have decodesStrictly
      (text : String) :
      Decodes [""] text.toList (decodeCharacters text.toList) := by
    have decodesStrictly := byGrammar text
    rwa [decodeReferences, String.toList_ofList] at decodesStrictly
  have isSigned : HasSignedReference "&#+65;".toList := by
    have isSix : IsDigit 10 '6' 6 := ⟨by decide, .inl rfl⟩
    have isFive : IsDigit 10 '5' 5 := ⟨by decide, .inl rfl⟩
    have isNumeral : IsNumeral 10 ['6', '5'] 65 := .more (.digit isSix) isFive
    have isSign : "+" ∈ ["+"] := List.mem_singleton_self "+"
    exact ⟨['#', '+', '6', '5'], [], 'A', List.suffix_refl _, .decimal isSign isNumeral (by decide)⟩
  have decodes := decodes_decodeCharacters "&#+65;".toList
  exact Nat.lt_irrefl _ ((decodes.length_le (decodesStrictly "&#+65;")).2 isSigned)

end WidgetMarkup.Markup
