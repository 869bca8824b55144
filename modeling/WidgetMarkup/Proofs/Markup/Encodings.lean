import WidgetMarkup.Proofs.Markup.ReferenceGrammar

namespace WidgetMarkup.Markup

open Number

/-!
# Encoded texts

Every character can be written as a reference, with its number in either base and any number of
zeros in front, and all but the ampersand as they are. However the characters of a text are written,
decoding gives the text back, and what follows the text is decoded as if it stood alone: no
ampersand is left that could pair with a semicolon further on.
-/

/-- The ways of writing a character: as it is, unless it is an ampersand, or as a reference. -/
inductive IsSpelling : List Char → Char → Prop where
  | verbatim
      {character : Char} :
      character ≠ '&' →
      IsSpelling [character] character
  | reference
      {body : List Char}
      {character : Char} :
      IsReference [""] body character →
      IsSpelling ('&' :: (body ++ [';'])) character

namespace IsSpelling

/-- Every character has its decimal number as a reference, with any number of zeros in front. -/
theorem decimal
    (zeros : Nat)
    (character : Char) :
    IsSpelling
      ('&' :: ('#' :: (List.replicate zeros '0' ++ Nat.toDigits 10 character.toNat) ++ [';']))
      character := by
  have isNumeral : IsNumeral 10 (Nat.toDigits 10 character.toNat) character.toNat :=
    .toDigits (by decide) (by decide) _
  have isNumeric :=
    IsNumericReference.decimal (List.mem_singleton_self "") (isNumeral.zeros (by decide) zeros)
      character.valid
  rw [Char.ofNat_toNat] at isNumeric
  exact .reference (.inr isNumeric)

theorem hexadecimal
    (zeros : Nat)
    (character : Char) :
    IsSpelling
      ('&' ::
        ('#' :: 'x' :: (List.replicate zeros '0' ++ Nat.toDigits 16 character.toNat) ++ [';']))
      character := by
  have isNumeral : IsNumeral 16 (Nat.toDigits 16 character.toNat) character.toNat :=
    .toDigits (by decide) (by decide) _
  have isNumeric :=
    IsNumericReference.hexadecimal (List.mem_singleton_self "") (isNumeral.zeros (by decide) zeros)
      character.valid
  rw [Char.ofNat_toNat] at isNumeric
  exact .reference (.inr isNumeric)

/-- A character is decoded from each of its spellings, whatever follows. -/
theorem decodeCharacters_append
    {written : List Char}
    {character : Char}
    (isSpelling : IsSpelling written character)
    (more : List Char) :
    decodeCharacters (written ++ more) = character :: decodeCharacters more := by
  cases isSpelling with
  | verbatim notAmpersand =>
      exact decodeCharacters_plain notAmpersand more
  | @reference body character isReference =>
      have found : readReference? (body ++ ';' :: more) = some (character, more) :=
        readReference?_eq_some_iff.mpr ⟨body, rfl, isReference.mono (by simp)⟩
      rw [List.cons_append, List.append_assoc, List.singleton_append]
      exact decodeCharacters_reference found

end IsSpelling

theorem decodeCharacters_flatten_append
    {pieces : List (List Char)}
    {characters : List Char}
    (areSpellings : List.Forall₂ IsSpelling pieces characters)
    (more : List Char) :
    decodeCharacters (pieces.flatten ++ more) = characters ++ decodeCharacters more := by
  induction areSpellings with
  | nil =>
      rfl
  | cons isSpelling _ inductionHypothesis =>
      rw [List.flatten_cons, List.append_assoc, isSpelling.decodeCharacters_append,
        inductionHypothesis, List.cons_append]

/--
A text whose characters are written one by one, each as it is or as one of its references, is
decoded to itself in front of any other text, and the other text is decoded as if it stood alone.
-/
theorem decodeReferences_spelled
    {pieces : List (List Char)}
    {text : String}
    (areSpellings : List.Forall₂ IsSpelling pieces text.toList)
    (more : String) :
    decodeReferences (String.ofList pieces.flatten ++ more) = text ++ decodeReferences more := by
  have decoded := decodeCharacters_flatten_append areSpellings more.toList
  rw [decodeReferences, String.toList_append, String.toList_ofList, decoded, String.ofList_append,
    String.ofList_toList, decodeReferences]

/-- Ampersands and semicolons on either side of the place where two texts meet. -/
theorem decodeReferences_spelled_ampersands :
    decodeReferences ("&#00038;;&#x3c;&amp;" ++ "lt;&gt;") = "&;<&lt;>" := by
  have isReference : IsReference [""] "amp".toList '&' := .inl ⟨"amp", rfl, by decide⟩
  have areSpellings :
      List.Forall₂ IsSpelling
        ["&#00038;".toList, [';'], "&#x3c;".toList, "&amp;".toList] "&;<&".toList :=
    .cons (.decimal 3 '&') (.cons (.verbatim (by decide))
      (.cons (.hexadecimal 0 '<') (.cons (.reference isReference) .nil)))
  have decoded := decodeReferences_spelled areSpellings "lt;&gt;"
  rwa [show decodeReferences "lt;&gt;" = "lt;>" by decide +kernel] at decoded

end WidgetMarkup.Markup
