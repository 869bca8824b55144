import WidgetMarkup.Proofs.Markup.RenderedTokens
import WidgetMarkup.Proofs.Markup.TokenForests

namespace WidgetMarkup.Markup

/-!
# Rendering and reading

Whatever a reader accepts has names that are names and texts that are trimmed lines, as the reader
takes them from runs of the right characters. So every forest that is read can be rendered, and
reading what was rendered gives the same forest, but for the places.
-/

/-- Whether all names in a token are names. -/
def Token.IsProper : Token → Prop
  | .opening name _ attributes _ =>
      IsNameOf isNameCharacter name ∧
        ∀ entry ∈ attributes, IsNameOf isAttributeNameCharacter entry.name
  | .closing _ _ | .text _ | .endOfSource => True

/-- A run that is not empty is a name. -/
theorem isNameOf_run
    {test : Char → Bool}
    {cursor : Cursor}
    (notEmpty : cursor.run test ≠ []) :
    IsNameOf test (String.ofList (cursor.run test)) where
  notEmpty := by
    simpa using notEmpty
  characters := by
    intro character member
    rw [String.toList_ofList] at member
    exact List.mem_takeWhile_imp member

/-- The name that is read for a tag is a name. -/
theorem isNameOf_of_readTagName
    {marker : Char}
    {cursor after : Cursor}
    {tag : TagName}
    (read : readTagName marker cursor = .ok (tag, after)) :
    IsNameOf isNameCharacter tag.name := by
  unfold readTagName at read
  simp only at read
  split at read
  · cases read
  · rename_i notEmpty
    cases read
    exact isNameOf_run (by simpa using notEmpty)

theorem isNameOf_of_readAttribute
    {cursor after : Cursor}
    {entry : Attribute}
    (read : readAttribute cursor = .ok (entry, after)) :
    IsNameOf isAttributeNameCharacter entry.name := by
  unfold readAttribute at read
  simp only at read
  split at read
  · cases read
  · rename_i notEmpty
    have isName : IsNameOf isAttributeNameCharacter
        (String.ofList (cursor.run isAttributeNameCharacter)) :=
      isNameOf_run (by simpa using notEmpty)
    split at read
    · split at read
      · cases read
        exact isName
      · cases read
    · cases read
      exact isName

theorem isNameOf_of_readTagBody
    {name : String}
    {start after : Cursor}
    {body : TagBody}
    (read : readTagBody name start = .ok (body, after)) :
    ∀ entry ∈ body.attributes, IsNameOf isAttributeNameCharacter entry.name := by
  fun_induction readTagBody name start generalizing body after with
  | case1 => cases read
  | case2 =>
      cases read
      simp
  | case3 =>
      cases read
      simp
  | case4 => cases read
  | case5 => cases read
  | case6 => cases read
  | case7 start cursor entry afterEntry readEntry body' after' readRest =>
      rename_i inductionHypothesis
      cases read
      rw [List.forall_mem_cons]
      exact ⟨isNameOf_of_readAttribute readEntry, inductionHypothesis readRest⟩

/-- The names in a token that is read are names. -/
theorem isProper_of_readToken
    {marker : Char}
    {cursor after : Cursor}
    {token : Token}
    (read : readToken marker cursor = .ok (token, after)) :
    token.IsProper := by
  unfold readToken at read
  split at read
  · cases read
    trivial
  · simp only [readClosingTag, bind, Except.bind] at read
    split at read
    · cases read
    · split at read
      · cases read
        trivial
      · cases read
  · simp only [readOpeningTag, bind, Except.bind] at read
    split at read
    · cases read
    · rename_i readName
      split at read
      · cases read
      · rename_i readBody
        cases read
        exact ⟨isNameOf_of_readTagName readName, isNameOf_of_readTagBody readBody⟩
  · cases read
    trivial

theorem isProper_of_readNext
    {marker : Char}
    {cursor after : Cursor}
    {token : Token}
    (read : readNext marker cursor = .ok (token, after)) :
    token.IsProper := by
  unfold readNext at read
  split at read
  · exact isProper_of_readToken read
  · cases read

/-- The tokens of a source end with its end and hold no other one, and their names are names. -/
theorem shape_of_readTokens
    {marker : Char}
    {cursor : Cursor}
    {tokens : List PlacedToken}
    (read : readTokens marker cursor = .ok tokens) :
    ∃ front final,
      tokens = front ++ [⟨.endOfSource, final⟩] ∧
        ∀ placed ∈ front, placed.token ≠ .endOfSource ∧ placed.token.IsProper := by
  fun_induction readTokens marker cursor generalizing tokens with
  | case1 => cases read
  | case2 cursor after _ =>
      cases read
      exact ⟨[], cursor.position, rfl, by simp⟩
  | case3 => cases read
  | case4 cursor token after readNext more rest readRest inductionHypothesis =>
      cases read
      obtain ⟨front, final, rfl, areProper⟩ := inductionHypothesis readRest
      refine ⟨⟨token, cursor.position⟩ :: front, final, rfl, ?_⟩
      rw [List.forall_mem_cons]
      exact ⟨⟨more, isProper_of_readNext readNext⟩, areProper⟩

/-- Nodes that are spelled by tokens with names for names are well formed. -/
theorem isWellFormed_of_spells
    {tokens : List PlacedToken}
    {lines : List String}
    {nodes : List Node}
    (spells : Spells tokens lines nodes)
    (areProper : ∀ placed ∈ tokens, placed.token.IsProper) :
    (∀ line ∈ lines, Text.IsTrimmedLine line) ∧ IsWellFormed nodes := by
  induction spells with
  | nothing =>
      exact ⟨by simp, .nothing⟩
  | text content position _ inductionHypothesis =>
      rw [List.forall_mem_cons] at areProper
      obtain ⟨areLines, wellFormed⟩ := inductionHypothesis areProper.2
      rw [List.forall_mem_append]
      exact ⟨⟨fun _ => Text.isTrimmedLine_of_mem_trimmedLines, areLines⟩, wellFormed⟩
  | selfClosing opening _ inductionHypothesis =>
      rw [List.forall_mem_cons] at areProper
      obtain ⟨⟨isName, areNames⟩, restProper⟩ := areProper
      obtain ⟨areLines, wellFormed⟩ := inductionHypothesis restProper
      exact ⟨areLines, .node isName areNames ⟨[], by simp, rfl⟩ .nothing wellFormed⟩
  | tag opening closingName position _ _ _ insideHypothesis restHypothesis =>
      simp only [List.forall_mem_cons, List.forall_mem_append] at areProper
      obtain ⟨⟨isName, areNames⟩, insideProper, -, restProper⟩ := areProper
      obtain ⟨innerAreLines, insideWellFormed⟩ := insideHypothesis insideProper
      obtain ⟨areLines, restWellFormed⟩ := restHypothesis restProper
      exact ⟨areLines,
        .node isName areNames ⟨_, innerAreLines, rfl⟩ insideWellFormed restWellFormed⟩

/-- Every forest that a source spells is well formed. -/
theorem isWellFormed_of_forestOfSource
    {marker : Char}
    {source : String}
    {forest : List Node}
    (read : forestOfSource marker source = .ok forest) :
    IsWellFormed forest := by
  unfold forestOfSource at read
  split at read
  · rename_i tokens readTokens
    obtain ⟨front, final, rfl, shape⟩ := shape_of_readTokens readTokens
    have noEarlyEnd := fun placed member => (shape placed member).1
    have spells := (forestOfTokens_eq_ok_iff_spells final noEarlyEnd).mp read
    exact (isWellFormed_of_spells spells fun placed member => (shape placed member).2).2
  · cases read

/-- A rendered forest is read again, with places of its own. -/
theorem exists_forestOfSource_renderForest
    {marker : Char}
    {forest : List Node}
    (isMarker : IsMarker marker)
    (wellFormed : IsWellFormed forest) :
    ∃ placed,
      forestOfSource marker (renderForest marker forest) = .ok placed ∧
        Node.unplacedAll placed = Node.unplacedAll forest := by
  let final := Position.start.after (Node.renderAll marker forest)
  obtain ⟨tokens, placed, read, spells, same⟩ :=
    readTokens_rendered isMarker wellFormed Position.start
      (readTokens_of_readNext_end (readNext_nil marker final))
  refine ⟨placed, ?_, same⟩
  rw [List.append_nil] at read
  rw [forestOfSource, tokensOfSource, Cursor.ofSource, renderForest, String.toList_ofList, read]
  exact (forestOfTokens_eq_ok_iff_spells final spells.ne_endOfSource).mpr spells

/--
Reading undoes rendering up to places: for every well formed forest, whatever its values are, and
for every forest that was read, as these are well formed.
-/
theorem forestOfSource_renderForest
    (marker : Char)
    (isMarker : IsMarker marker) :
    (∀ forest,
      IsWellFormed forest →
        (forestOfSource marker (renderForest marker forest)).map Node.unplacedAll =
          .ok (Node.unplacedAll forest)) ∧
    ∀ source forest,
      forestOfSource marker source = .ok forest →
        IsWellFormed forest ∧
          (forestOfSource marker (renderForest marker forest)).map Node.unplacedAll =
            .ok (Node.unplacedAll forest) := by
  have undone :
      ∀ forest,
        IsWellFormed forest →
          (forestOfSource marker (renderForest marker forest)).map Node.unplacedAll =
            .ok (Node.unplacedAll forest) := by
    intro forest wellFormed
    obtain ⟨placed, read, same⟩ := exists_forestOfSource_renderForest isMarker wellFormed
    rw [read, Except.map, same]
  refine ⟨undone, fun source forest read => ?_⟩
  have wellFormed := isWellFormed_of_forestOfSource read
  exact ⟨wellFormed, undone forest wellFormed⟩

/-- A macro around a text with a bracket and a tag whose value holds quote marks. -/
theorem forestOfSource_renderForest_escaped :
    let forest : List Node :=
      [⟨"each", true, [],
        [⟨"label", false, [⟨"text", "\x22a\x22 & b"⟩], [], "", ⟨0, 0⟩⟩],
        "one < two\nthree", ⟨0, 0⟩⟩]
    IsMarker ':' ∧
      renderForest ':' forest =
        "<:each>one &lt; two\nthree<label text=\"&quot;a&quot; &amp; b\"></label></:each>" ∧
      (forestOfSource ':' (renderForest ':' forest)).map Node.unplacedAll = .ok forest := by
  intro forest
  have isMarker : IsMarker ':' :=
    ⟨by decide, by decide, by decide, by decide⟩
  have rendered :
      renderForest ':' forest =
        "<:each>one &lt; two\nthree<label text=\"&quot;a&quot; &amp; b\"></label></:each>" := by
    decide +kernel
  have areLines : ∀ line ∈ ["one < two", "three"], Text.IsTrimmedLine line := by
    have cut : Text.trimmedLines "one < two\nthree" = ["one < two", "three"] := by
      decide +kernel
    rw [← cut]
    exact fun line => Text.isTrimmedLine_of_mem_trimmedLines
  have each : IsNameOf isNameCharacter "each" := ⟨by decide, List.all_eq_true.mp (by decide)⟩
  have label : IsNameOf isNameCharacter "label" := ⟨by decide, List.all_eq_true.mp (by decide)⟩
  have text : IsNameOf isAttributeNameCharacter "text" := ⟨by decide, List.all_eq_true.mp (by decide)⟩
  have wellFormed : IsWellFormed forest :=
    .node each (by simp) ⟨_, areLines, by decide +kernel⟩
      (.node label (by simpa using text) ⟨[], by simp, rfl⟩ .nothing .nothing)
      .nothing
  exact ⟨isMarker, rendered, (forestOfSource_renderForest ':' isMarker).1 forest wellFormed⟩

end WidgetMarkup.Markup
