import Mathlib.Data.List.Chain
import WidgetMarkup.Proofs.Expansion.Restoring
import WidgetMarkup.Proofs.Expression.Lookups
import WidgetMarkup.Proofs.Text.Lines
import WidgetMarkup.Vocabulary.Standard

namespace WidgetMarkup

/-!
# Values that are written

How pieces of a value are written so that splitting the value gives them back: a backslash stands
before each opening brace of a literal, and a placeholder stands in braces behind its mark. What
the placeholders stand for is put between the literals as it is and not looked at again.
-/

namespace Text

/-- What stands behind a mark is trimmed if it is trimmed with the mark. -/
theorem trimCharacters_cons
    {mark : Char}
    {characters : List Char}
    (marked : isBlank mark = false)
    (trimmed : trimCharacters characters = characters) :
    trimCharacters (mark :: characters) = mark :: characters := by
  have startSublist : (trimStart characters).Sublist characters :=
    List.dropWhile_sublist isBlank
  have endSublist : (trimCharacters characters).Sublist (trimStart characters) :=
    (List.rdropWhile_prefix isBlank (trimStart characters)).sublist
  have start : trimStart characters = characters :=
    startSublist.eq_of_length_le (by rw [trimmed] at endSublist; exact endSublist.length_le)
  have ending : characters.reverse.dropWhile isBlank = characters.reverse := by
    rw [trimCharacters, start, trimEnd] at trimmed
    exact List.reverse_eq_iff.1 trimmed
  rw [trimCharacters, trimStart, List.dropWhile_cons_of_neg (by simp [marked]), trimEnd,
    List.reverse_cons, List.dropWhile_append, ending]
  split
  · rename_i isEmpty
    rw [List.isEmpty_reverse, List.isEmpty_iff] at isEmpty
    simp [isEmpty, marked]
  · simp

end Text

namespace Segment

/-- Characters with a backslash before each opening brace. -/
def escapeCharacters : List Char → List Char
  | [] => []
  | first :: rest =>
      if first = Text.openBrace then
        '\\' :: first :: escapeCharacters rest
      else
        first :: escapeCharacters rest

/-- A text with a backslash before each opening brace. -/
def escape (text : String) : String :=
  String.ofList (escapeCharacters text.toList)

/-- A placeholder, given what stands between its braces. -/
def enclose (inside : List Char) : List Char :=
  Text.openBrace :: (inside ++ [Text.closeBrace])

/-- How a piece is written. -/
def write : Segment → List Char
  | .literal text => escapeCharacters text.toList
  | .variable name => enclose name.toList
  | .translation key => enclose ('@' :: key.toList)
  | .action reference => enclose ('$' :: reference.toList)
  | .expression source => enclose ('=' :: source.toList)

/-- How a value is written. -/
def writeAll (segments : List Segment) : String :=
  String.ofList (segments.flatMap write)

/-- Whether what a placeholder names can stand between its braces and is found there. -/
structure IsNameable (name : String) : Prop where
  trimmed :
    Text.trim name = name
  closed :
    Text.closeBrace ∉ name.toList

/-- Whether a piece by itself is given back when it is written. -/
def IsWritable : Segment → Prop
  | .literal text => text ≠ ""
  | .variable name =>
      IsNameable name ∧ name ≠ "" ∧ ∀ mark ∈ name.toList.head?, mark ∉ ['@', '$', '=']
  | .translation name | .action name | .expression name => IsNameable name

/-- Whether a piece may stand before another one: two literals would be one, and a backslash at the
end of a literal would make the brace of a placeholder literal. -/
def MayPrecede : Segment → Segment → Prop
  | .literal _, .literal _ => False
  | .literal text, _ => text.toList.getLast? ≠ some '\\'
  | _, _ => True

/-- Whether pieces are given back when they are written. -/
structure AreWritable (segments : List Segment) : Prop where
  each :
    ∀ segment ∈ segments, segment.IsWritable
  neighbors :
    segments.IsChain MayPrecede

instance (name : String) : Decidable (IsNameable name) :=
  decidable_of_iff (Text.trim name = name ∧ Text.closeBrace ∉ name.toList)
    ⟨fun both => ⟨both.1, both.2⟩, fun isNameable => ⟨isNameable.trimmed, isNameable.closed⟩⟩

instance : DecidablePred IsWritable
  | .literal text => inferInstanceAs (Decidable (text ≠ ""))
  | .variable name =>
      -- Named, since a search may settle on trying every character.
      have : Decidable (∀ mark ∈ name.toList.head?, mark ∉ ['@', '$', '=']) :=
        Option.decidableForallMem _
      inferInstanceAs
        (Decidable
          (IsNameable name ∧ name ≠ "" ∧ ∀ mark ∈ name.toList.head?, mark ∉ ['@', '$', '=']))
  | .translation name | .action name | .expression name =>
      inferInstanceAs (Decidable (IsNameable name))

instance : DecidableRel MayPrecede
  | .literal _, .literal _ => inferInstanceAs (Decidable False)
  | .literal text, .variable _ | .literal text, .translation _ | .literal text, .action _
  | .literal text, .expression _ =>
      inferInstanceAs (Decidable (text.toList.getLast? ≠ some '\\'))
  | .variable _, _ | .translation _, _ | .action _, _ | .expression _, _ =>
      inferInstanceAs (Decidable True)

instance (segments : List Segment) : Decidable (AreWritable segments) :=
  decidable_of_iff
    ((∀ segment ∈ segments, segment.IsWritable) ∧ segments.IsChain MayPrecede)
    ⟨fun both => ⟨both.1, both.2⟩, fun writable => ⟨writable.each, writable.neighbors⟩⟩

theorem head?_escapeCharacters_ne
    (characters : List Char) :
    (escapeCharacters characters).head? ≠ some Text.openBrace := by
  cases characters with
  | nil =>
      simp [escapeCharacters]
  | cons first rest =>
      rw [escapeCharacters]
      split
      · simp [Text.openBrace]
      · simpa

/-- No brace stands behind the first of some characters, as they are escaped and go on. -/
theorem head?_escapeCharacters_append_ne
    {first : Char}
    {others rest : List Char}
    (bounded : (first :: others).getLast? = some '\\' → rest.head? ≠ some Text.openBrace)
    (isBackslash : first = '\\') :
    (escapeCharacters others ++ rest).head? ≠ some Text.openBrace := by
  cases others with
  | nil =>
      exact bounded (by rw [List.getLast?_singleton, isBackslash])
  | cons second others =>
      have escaped := head?_escapeCharacters_ne (second :: others)
      rw [List.head?_append]
      cases shape : escapeCharacters (second :: others) with
      | nil =>
          rw [escapeCharacters] at shape
          split at shape <;> cases shape
      | cons head tail =>
          rw [shape] at escaped
          exact escaped

/-- Escaped characters are read as a literal, unless they end in a backslash before a brace. -/
theorem readFrom_escapeCharacters
    {rest : List Char}
    (characters reversed : List Char)
    (bounded : characters.getLast? = some '\\' → rest.head? ≠ some Text.openBrace) :
    readFrom reversed (escapeCharacters characters ++ rest) =
      readFrom (characters.reverse ++ reversed) rest := by
  induction characters generalizing reversed with
  | nil =>
      rfl
  | cons first others inductionHypothesis =>
      have othersBounded :
          others.getLast? = some '\\' → rest.head? ≠ some Text.openBrace := by
        intro isLast
        exact bounded (by rw [List.getLast?_cons, isLast, Option.getD_some])
      have noBrace := head?_escapeCharacters_append_ne bounded
      rw [List.reverse_cons, List.append_assoc, List.singleton_append,
        ← inductionHypothesis (first :: reversed) othersBounded, escapeCharacters]
      split
      · rename_i isBrace
        rw [List.cons_append, List.cons_append, readFrom, if_pos ⟨rfl, congrArg some isBrace⟩,
          List.tail_cons, isBrace]
      · rename_i isOther
        rw [List.cons_append, readFrom, if_neg fun both => noBrace both.1 both.2, if_neg isOther]

/-- What is written in braces is read as the placeholder that it is. -/
theorem readFrom_enclose
    {inside : List Char}
    {segment : Segment}
    (isInside : ofInside? inside = some segment)
    (closed : Text.closeBrace ∉ inside)
    (reversed rest : List Char) :
    readFrom reversed (enclose inside ++ rest) =
      (readFrom [] rest).map fun segments => afterLiteral reversed (segment :: segments) := by
  have passes : ∀ character ∈ inside, (character != Text.closeBrace) = true := by
    intro character member
    rw [bne_iff_ne]
    rintro rfl
    exact closed member
  have taken :
      (inside ++ Text.closeBrace :: rest).takeWhile (· != Text.closeBrace) = inside := by
    rw [List.takeWhile_append_of_pos passes, List.takeWhile_cons_of_neg (by simp), List.append_nil]
  have dropped :
      (inside ++ Text.closeBrace :: rest).dropWhile (· != Text.closeBrace) =
        Text.closeBrace :: rest := by
    rw [List.dropWhile_append_of_pos passes, List.dropWhile_cons_of_neg (by simp)]
  rw [enclose, List.cons_append, List.append_assoc, List.singleton_append, readFrom,
    if_neg (by simp [Text.openBrace]), if_pos rfl]
  simp only [taken]
  split
  · rename_i isDropped
    rw [dropped] at isDropped
    cases isDropped
  · rename_i close after isDropped
    rw [dropped] at isDropped
    cases isDropped
    simp only [isInside]
    cases readFrom [] rest <;> rfl

/-- Behind its mark, what a placeholder names is found as it is. -/
theorem trimCharacters_of_isNameable
    {name : String}
    (isNameable : IsNameable name) :
    Text.trimCharacters name.toList = name.toList := by
  have trimmed := congrArg String.toList isNameable.trimmed
  rwa [Text.trim, String.toList_ofList] at trimmed

/-- A piece that is no literal is found between its braces. -/
theorem exists_inside
    {segment : Segment}
    (isWritable : segment.IsWritable)
    (noLiteral : ∀ text, segment ≠ .literal text) :
    ∃ inside,
      segment.write = enclose inside ∧ ofInside? inside = some segment ∧
        Text.closeBrace ∉ inside := by
  match segment with
  | .literal text =>
      exact absurd rfl (noLiteral text)
  | .variable name =>
      obtain ⟨isNameable, nonempty, unmarked⟩ := isWritable
      refine ⟨_, rfl, ?_, isNameable.closed⟩
      rw [ofInside?, trimCharacters_of_isNameable isNameable]
      split
      · rename_i isEmpty
        exact absurd (String.toList_eq_nil_iff.1 isEmpty) nonempty
      · rename_i isMarked
        exact absurd (List.mem_cons_self ..) (unmarked '@' (by rw [isMarked]; rfl))
      · rename_i isMarked
        exact absurd (by decide) (unmarked '$' (by rw [isMarked]; rfl))
      · rename_i isMarked
        exact absurd (by decide) (unmarked '=' (by rw [isMarked]; rfl))
      · rw [String.ofList_toList]
  | .translation key | .action key | .expression key =>
      refine ⟨_, rfl, ?_, ?_⟩
      · have trimmed := trimCharacters_of_isNameable isWritable
        rw [ofInside?, Text.trimCharacters_cons (by decide) trimmed]
        simp only [trimmed, String.ofList_toList]
      · intro member
        rcases List.mem_cons.1 member with same | member
        · cases same
        · exact isWritable.closed member

/-- What may stand behind a literal is given back behind it. -/
theorem bounded_of_isChain
    {text : String}
    {rest : List Segment}
    (neighbors : (Segment.literal text :: rest).IsChain MayPrecede)
    (isLast : text.toList.getLast? = some '\\') :
    (rest.flatMap write).head? ≠ some Text.openBrace := by
  cases rest with
  | nil =>
      simp
  | cons next others =>
      have precedes := (List.isChain_cons_cons.1 neighbors).1
      match next with
      | .literal _ =>
          exact absurd precedes id
      | .variable _ | .translation _ | .action _ | .expression _ =>
          exact absurd isLast precedes

/-- Written pieces are read behind a literal that is not followed by another one. -/
theorem readFrom_writeAll
    (segments : List Segment)
    (reversed : List Char)
    (areWritable : AreWritable segments)
    (apart : reversed ≠ [] → ∀ text, segments.head? ≠ some (.literal text)) :
    readFrom reversed (segments.flatMap write) = .ok (afterLiteral reversed segments) := by
  induction segments generalizing reversed with
  | nil =>
      rw [List.flatMap_nil, readFrom]
  | cons segment rest inductionHypothesis =>
      have isWritable := areWritable.each segment (List.mem_cons_self ..)
      have restWritable : AreWritable rest :=
        ⟨fun other member => areWritable.each other (.tail _ member),
          (List.isChain_cons.1 areWritable.neighbors).2⟩
      rw [List.flatMap_cons]
      by_cases isLiteral : ∃ text, segment = .literal text
      · obtain ⟨text, rfl⟩ := isLiteral
        have atStart : reversed = [] :=
          Classical.byContradiction fun other => apart other text rfl
        have nonempty : text.toList ≠ [] := fun isEmpty =>
          isWritable (String.toList_eq_nil_iff.1 isEmpty)
        have bounded := bounded_of_isChain areWritable.neighbors
        rw [write, readFrom_escapeCharacters _ _ bounded, inductionHypothesis _ restWritable]
        · simp [afterLiteral, atStart, nonempty]
        · exact fun _ other isHead =>
            (List.isChain_cons.1 areWritable.neighbors).1 (.literal other) isHead
      · have noLiteral (text : String) : segment ≠ .literal text := fun same =>
          isLiteral ⟨text, same⟩
        obtain ⟨inside, written, isInside, closed⟩ := exists_inside isWritable noLiteral
        rw [written, readFrom_enclose isInside closed, inductionHypothesis [] restWritable]
        · rfl
        · exact fun other => absurd rfl other

/-- Written pieces are given back. -/
theorem ofValue_writeAll
    {segments : List Segment}
    (areWritable : AreWritable segments) :
    ofValue (writeAll segments) = .ok segments := by
  rw [ofValue, writeAll, String.toList_ofList,
    readFrom_writeAll segments [] areWritable fun other => absurd rfl other]
  rfl

/-- An escaped text is read as one literal, or as nothing if it is empty. -/
theorem ofValue_escape
    (text : String) :
    ofValue (escape text) = .ok (afterLiteral text.toList.reverse []) := by
  have read := @readFrom_escapeCharacters [] text.toList [] fun _ => nofun
  rw [List.append_nil, List.append_nil, readFrom] at read
  rw [ofValue, escape, String.toList_ofList, read]

/-- Where there is no brace, escaping changes nothing. -/
theorem escapeCharacters_eq_self
    {characters : List Char}
    (plain : Text.openBrace ∉ characters) :
    escapeCharacters characters = characters := by
  induction characters with
  | nil =>
      rfl
  | cons first rest inductionHypothesis =>
      have isOther : first ≠ Text.openBrace := fun same => plain (same ▸ List.mem_cons_self ..)
      have restPlain : Text.openBrace ∉ rest := fun member => plain (.tail _ member)
      rw [escapeCharacters, if_neg isOther, inductionHypothesis restPlain]

end Segment

namespace Interpreter

variable {interpreter : Interpreter}

/-- What a piece of a value stands for, and the state after it has been found out. -/
inductive Resolves (interpreter : Interpreter) (scope : Scope) :
    Segment → Progress → String → Progress → Prop where
  | literal (text progress) :
      Resolves interpreter scope (.literal text) progress text progress
  /-- A variable, or else an argument. -/
  | variable {name value progress}
      (found : interpreter.lookup? scope name = some value) :
      Resolves interpreter scope (.variable name) progress value progress
  | translation {key value progress}
      (found : interpreter.translations key = some value) :
      Resolves interpreter scope (.translation key) progress value progress
  /-- The answer of an action, which may be none. -/
  | action {reference answer progress journal}
      (ran : interpreter.actions.invoke reference progress.journal = .ok answer journal) :
      Resolves interpreter scope (.action reference) progress (answer.getD "")
        { progress with journal }
  | expression {source value progress after}
      (evaluated : interpreter.evaluate scope source progress = .ok value after) :
      Resolves interpreter scope (.expression source) progress value.render after

/-- What pieces stand for, one after another. -/
inductive ResolvesAll (interpreter : Interpreter) (scope : Scope) :
    List Segment → Progress → List String → Progress → Prop where
  | nil (progress) :
      ResolvesAll interpreter scope [] progress [] progress
  | cons {segment rest progress text between texts after}
      (first : Resolves interpreter scope segment progress text between)
      (others : ResolvesAll interpreter scope rest between texts after) :
      ResolvesAll interpreter scope (segment :: rest) progress (text :: texts) after

/-- A piece that is given back is filled in with what it stands for. -/
theorem Resolves.fillIn_eq
    {scope : Scope}
    {segment : Segment}
    {progress after : Progress}
    {text : String}
    (resolves : interpreter.Resolves scope segment progress text after)
    (isWritable : segment.IsWritable) :
    interpreter.fillIn scope segment progress = .ok text after := by
  cases resolves with
  | literal =>
      rfl
  | «variable» found =>
      rw [fillIn, found]
      rfl
  | translation found =>
      rw [fillIn, found]
      rfl
  | action ran =>
      rw [fillIn, Expansion.bind_apply, Expansion.logged, ran]
      rfl
  | expression evaluated =>
      rw [fillIn, interpreter.evaluateWith_eq_evaluate scope isWritable.closed,
        Expansion.bind_apply, evaluated]
      rfl

theorem ResolvesAll.fillInAll_eq
    {scope : Scope}
    {segments : List Segment}
    {progress after : Progress}
    {texts : List String}
    (resolves : interpreter.ResolvesAll scope segments progress texts after)
    (areWritable : ∀ segment ∈ segments, segment.IsWritable) :
    interpreter.fillInAll scope segments progress = .ok (String.join texts) after := by
  induction resolves with
  | nil =>
      rfl
  | cons first _ inductionHypothesis =>
      obtain ⟨isWritable, restWritable⟩ := List.forall_mem_cons.1 areWritable
      rw [fillInAll, Expansion.bind_apply, first.fillIn_eq isWritable]
      simp only [Expansion.bind_apply, inductionHypothesis restWritable, String.join_cons]
      rfl

theorem fillInAll_afterLiteral
    (scope : Scope)
    (text : String) :
    interpreter.fillInAll scope (Segment.afterLiteral text.toList.reverse []) = pure text := by
  unfold Segment.afterLiteral
  split
  · rename_i isEmpty
    rw [List.isEmpty_reverse, List.isEmpty_iff, String.toList_eq_nil_iff] at isEmpty
    rw [isEmpty]
    rfl
  · rw [List.reverse_reverse, String.ofList_toList]
    exact congrArg (fun whole => (pure whole : Expansion String)) String.append_empty

/-- A value without any brace might as well be split as the others are. -/
theorem interpolate_eq
    (scope : Scope)
    (raw : String) :
    interpreter.interpolate scope raw =
      match Segment.ofValue raw with
      | .ok segments => interpreter.fillInAll scope segments
      | .error problem => Expansion.fail problem := by
  unfold interpolate
  split
  · rfl
  · rename_i notNeeded
    have plain : Text.openBrace ∉ raw.toList := by
      simpa [Segment.isNeeded] using notNeeded
    have same : Segment.escape raw = raw := by
      rw [Segment.escape, Segment.escapeCharacters_eq_self plain, String.ofList_toList]
    have read := Segment.ofValue_escape raw
    rw [same] at read
    rw [read]
    exact (fillInAll_afterLiteral scope raw).symm

/--
Values can be written so that they mean what they should. A text with a backslash before each
opening brace stands for the text, whether it is split or not. Pieces that are written are given
back by splitting. And once every placeholder among them is found out, the written value becomes
the literals and what the placeholders stand for, one after another and as they are.
-/
theorem interpolate_writeAll
    (interpreter : Interpreter) :
    (∀ scope text, interpreter.interpolate scope (Segment.escape text) = pure text) ∧
    (∀ segments, Segment.AreWritable segments →
      Segment.ofValue (Segment.writeAll segments) = .ok segments) ∧
    ∀ scope segments progress texts after,
      Segment.AreWritable segments →
        interpreter.ResolvesAll scope segments progress texts after →
          interpreter.interpolate scope (Segment.writeAll segments) progress =
            .ok (String.join texts) after := by
  refine ⟨fun scope text => ?_, fun _ => Segment.ofValue_writeAll, ?_⟩
  · rw [interpolate_eq, Segment.ofValue_escape]
    exact fillInAll_afterLiteral scope text
  · intro scope segments progress texts after areWritable resolves
    rw [interpolate_eq, Segment.ofValue_writeAll areWritable]
    exact resolves.fillInAll_eq areWritable.each

/-- Braces and backslashes of a literal, a translation and an answer end up side by side. -/
theorem interpolate_writeAll_braces :
    let interpreter : Interpreter :=
      { vocabulary := .standard, arguments := .ofPairs [("name", "\x7b$now\x7d\\")],
        translations := .ofPairs [("key", "\x7b")], actions := ⟨[("now", { alone := "\\" })]⟩ }
    let segments : List Segment :=
      [.literal "\x7b\\\x7d", .variable "name", .translation "key", .action "now",
        .expression "\x27\x7b\x27"]
    interpreter.interpolate .empty (Segment.escape "\\\x7b") = pure "\\\x7b" ∧
    Segment.ofValue (Segment.writeAll segments) = .ok segments ∧
    ∃ after,
      interpreter.interpolate .empty (Segment.writeAll segments) (interpreter.beginning []) =
        .ok "\x7b\\\x7d\x7b$now\x7d\\\x7b\\\x7b" after := by
  intro interpreter segments
  have written := interpolate_writeAll interpreter
  have areWritable : Segment.AreWritable segments := by
    decide +kernel
  have evaluated (progress : Progress) :
      interpreter.evaluate .empty "\x27\x7b\x27" progress = .ok (.text "\x7b") progress := by
    with_unfolding_all rfl
  obtain ⟨journal, asked⟩ :
      ∃ journal,
        interpreter.actions.invoke "now" (interpreter.beginning []).journal =
          .ok (some "\\") journal :=
    ⟨_, rfl⟩
  have resolves :
      interpreter.ResolvesAll .empty segments (interpreter.beginning []) _ _ :=
    .cons (.literal _ _) <| .cons (.variable rfl) <| .cons (.translation rfl) <|
      .cons (.action asked) <| .cons (.expression (evaluated _)) (.nil _)
  exact ⟨written.1 _ _, written.2.1 _ areWritable, _, written.2.2 _ _ _ _ _ areWritable resolves⟩

end Interpreter

end WidgetMarkup
