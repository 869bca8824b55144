import WidgetMarkup.Proofs.Expression.Meaning
import WidgetMarkup.Proofs.Number.DecimalTexts

namespace WidgetMarkup.Expression

/-!
# Expressions that are identifiers

An expression that is nothing but an identifier is one word, and unless that is a literal, its value
is what the identifier is bound to.
-/

/-- Whether a name is an identifier or a literal. -/
def isIdentifier (name : String) : Bool :=
  name.toList.head?.any isIdentifierStart && name.toList.tail.all isIdentifierCharacter

theorem exists_toList_of_isIdentifier
    {name : String}
    (valid : isIdentifier name = true) :
    ∃ first rest,
      name.toList = first :: rest ∧
        isIdentifierStart first = true ∧
        ∀ character ∈ rest, isIdentifierCharacter character = true := by
  rw [isIdentifier] at valid
  cases characters : name.toList with
  | nil =>
      simp [characters] at valid
  | cons first rest =>
      rw [characters] at valid
      exact ⟨first, rest, rfl, by simpa using valid⟩

/-- Among the ASCII characters, letters and the underscore begin identifiers. -/
theorem toNat_of_isIdentifierStart
    {character : Char}
    (isStart : isIdentifierStart character = true)
    (isAscii : character.toNat < 0x80) :
    65 ≤ character.toNat := by
  rw [isIdentifierStart, Text.isAlphabetic, if_pos isAscii, Bool.or_eq_true, beq_iff_eq] at isStart
  obtain isLetter | rfl := isStart
  · obtain isCapital | isSmall := Bool.or_eq_true_iff.mp isLetter
    · exact UInt32.le_iff_toNat_le.mp (of_decide_eq_true isCapital).1
    · have isAtLeast := of_decide_eq_true (Bool.and_eq_true_iff.mp isSmall).1
      exact Nat.le_trans (by decide : 65 ≤ 97) (UInt32.le_iff_toNat_le.mp isAtLeast)
  · decide

/-- No identifier begins with a blank. -/
theorem isBlank_of_isIdentifierStart
    {character : Char}
    (isStart : isIdentifierStart character = true) :
    Text.isBlank character = false := by
  have noLetter :
      ∀ code ∈ [0x85, 0xa0, 0x1680, 0x2000, 0x2001, 0x2002, 0x2003, 0x2004, 0x2005, 0x2006, 0x2007,
        0x2008, 0x2009, 0x200a, 0x2028, 0x2029, 0x202f, 0x205f, 0x3000],
        Text.inRanges Text.alphabeticRanges code = false := by
    decide +kernel
  rw [← Bool.not_eq_true]
  intro isBlank
  simp only [Text.isBlank, Bool.or_eq_true, Bool.and_eq_true, decide_eq_true_eq,
    beq_iff_eq] at isBlank
  by_cases isAscii : character.toNat < 0x80
  · have atLeast := toNat_of_isIdentifierStart isStart isAscii
    omega
  · have notUnderscore : character ≠ '_' := by
      rintro rfl
      exact isAscii (by decide)
    have isBeyond := noLetter character.toNat (by
      simp only [List.mem_cons, List.not_mem_nil, or_false]
      omega)
    rw [isIdentifierStart, Text.isAlphabetic, if_neg isAscii, isBeyond, Bool.false_or,
      beq_iff_eq] at isStart
    exact notUnderscore isStart

/-- No identifier begins with a digit. -/
theorem isDigit_of_isIdentifierStart
    {character : Char}
    (isStart : isIdentifierStart character = true) :
    character.isDigit = false := by
  rw [← Bool.not_eq_true, Number.isDigit_iff_toNat]
  intro range
  have atLeast := toNat_of_isIdentifierStart isStart (by omega)
  omega

/-- No identifier begins with a character that begins another word. -/
theorem ne_of_isIdentifierStart
    {character other : Char}
    (isStart : isIdentifierStart character = true)
    (noStart : isIdentifierStart other = false) :
    character ≠ other := by
  rintro rfl
  rw [isStart] at noStart
  cases noStart

theorem readTokens_of_readWord
    {first : Char}
    {rest : List Char}
    {token : Token}
    (isInk : Text.isBlank first = false)
    (word : readWord first rest = .ok (token, [])) :
    readTokens (first :: rest) = .ok [token] := by
  rw [readTokens, isInk, if_neg Bool.false_ne_true]
  split <;> rename_i read <;> rw [word] at read <;> cases read
  rw [readTokens]

/-- An identifier is one word. -/
theorem readTokens_of_isIdentifier
    {name : String}
    (valid : isIdentifier name = true) :
    readTokens name.toList = .ok [.identifier name] := by
  obtain ⟨first, rest, shape, isStart, areRest⟩ := exists_toList_of_isIdentifier valid
  have word : readWord first rest = .ok (.identifier name, []) := by
    have all : rest.takeWhile isIdentifierCharacter = rest :=
      List.takeWhile_eq_self_iff.mpr areRest
    have behind : rest.dropWhile isIdentifierCharacter = [] :=
      List.dropWhile_eq_nil_iff.mpr areRest
    have notOpen : first ≠ '(' := ne_of_isIdentifierStart isStart (by decide)
    have notClose : first ≠ ')' := ne_of_isIdentifierStart isStart (by decide)
    have notQuote : ¬(first = '\x27' ∨ first = '\x22') :=
      not_or.mpr ⟨ne_of_isIdentifierStart isStart (by decide),
        ne_of_isIdentifierStart isStart (by decide)⟩
    have notBrace : first ≠ Text.openBrace := ne_of_isIdentifierStart isStart (by decide)
    rw [readWord, if_neg notOpen, if_neg notClose, if_neg notQuote, if_neg notBrace,
      isDigit_of_isIdentifierStart isStart, if_neg Bool.false_ne_true,
      if_pos isStart, all, behind, ← shape, String.ofList_toList]
  rw [shape]
  exact readTokens_of_readWord (isBlank_of_isIdentifierStart isStart) word

/-- The value of an identifier is that of what it is bound to. -/
theorem evaluate_of_isIdentifier
    {m : Type → Type}
    [Monad m]
    [LawfulMonad m]
    {name : String}
    (valid : isIdentifier name = true)
    (notLiteral : literal? name = none)
    (resolve : String → m (Option String)) :
    (evaluate resolve name).run =
      (fun bound => .ok (identifierValue name bound)) <$> resolve name := by
  have order : evaluationOfTokens [.identifier name] = ⟨[.identifier name], none⟩ := rfl
  rw [evaluate, readTokens_of_isIdentifier valid, ExceptT.run_bind, ExceptT.run_mk, pure_bind]
  simp [order, Evaluation.run, runSteps, run_identifier, notLiteral, Except.map]

end WidgetMarkup.Expression
