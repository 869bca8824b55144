import WidgetMarkup.Proofs.Markup.Nesting

namespace WidgetMarkup.Markup

/-!
# The forests of tokens

A nesting that takes in tokens puts what they spell where it stands, and covers at every point
exactly the tokens it has taken in. Hence the tokens up to the end of a source have a forest if
and only if they are balanced, and it is the one that they spell.
-/

namespace Nesting

/-- Puts lines and finished nodes into the innermost open tag, or the nodes among the roots. -/
def absorb (nesting : Nesting) (lines : List String) (nodes : List Node) : Nesting :=
  match nesting.openTags with
  | [] => { nesting with roots := nodes.reverse ++ nesting.roots }
  | parent :: outer =>
      { nesting with
        openTags :=
          { parent with
            children := nodes.reverse ++ parent.children
            lines := lines.reverse ++ parent.lines } :: outer }

theorem absorb_nothing
    (nesting : Nesting) :
    nesting.absorb [] [] = nesting := by
  rcases nesting with ⟨_ | ⟨parent, outer⟩, roots⟩ <;> rfl

theorem absorb_absorb
    (nesting : Nesting)
    (firstLines secondLines : List String)
    (firstNodes secondNodes : List Node) :
    (nesting.absorb firstLines firstNodes).absorb secondLines secondNodes =
      nesting.absorb (firstLines ++ secondLines) (firstNodes ++ secondNodes) := by
  rcases nesting with ⟨_ | ⟨parent, outer⟩, roots⟩ <;> simp [absorb]

theorem place_eq_absorb
    (nesting : Nesting)
    (node : Node) :
    nesting.place node = nesting.absorb [] [node] := by
  rcases nesting with ⟨_ | ⟨parent, outer⟩, roots⟩ <;> rfl

/-- Outside of all tags, what is put in stays outside. -/
theorem openTags_absorb_eq_nil_iff
    (nesting : Nesting)
    (lines : List String)
    (nodes : List Node) :
    (nesting.absorb lines nodes).openTags = [] ↔ nesting.openTags = [] := by
  rcases nesting with ⟨_ | ⟨parent, outer⟩, roots⟩ <;> simp [absorb]

/-- A token that is not the end of the source is taken in before the rest. -/
theorem takeAll_cons
    {nesting next : Nesting}
    {placed : PlacedToken}
    {rest : List PlacedToken}
    (more : placed.token ≠ .endOfSource)
    (taken : nesting.take placed = .ok next) :
    nesting.takeAll (placed :: rest) = next.takeAll rest := by
  simp [takeAll, more, taken]

theorem take_text
    (nesting : Nesting)
    (content : String)
    (position : Position)
    (outside : nesting.openTags = [] → Text.trimmedLines content = []) :
    nesting.take ⟨.text content, position⟩ =
      .ok (nesting.absorb (Text.trimmedLines content) []) := by
  rcases nesting with ⟨_ | ⟨parent, outer⟩, roots⟩
  · have blank := (Text.trimmedLines_eq_nil_iff content).mp (outside rfl)
    simp [take, takeText, blank, absorb]
  · simp [take, takeText, absorb]

/-- A text that is taken in outside of all tags has no trimmed line. -/
theorem trimmedLines_of_take_text
    {nesting next : Nesting}
    {content : String}
    {position : Position}
    (taken : nesting.take ⟨.text content, position⟩ = .ok next)
    (outside : nesting.openTags = []) :
    Text.trimmedLines content = [] := by
  by_contra notBlank
  rw [Text.trimmedLines_eq_nil_iff] at notBlank
  simp [take, takeText, outside, notBlank] at taken

/-- What tokens spell is put in where the nesting stands. -/
theorem takeAll_append_of_spells
    {tokens : List PlacedToken}
    {lines : List String}
    {nodes : List Node}
    (spells : Spells tokens lines nodes)
    (nesting : Nesting)
    (outside : nesting.openTags = [] → lines = [])
    (rest : List PlacedToken) :
    nesting.takeAll (tokens ++ rest) = (nesting.absorb lines nodes).takeAll rest := by
  induction spells generalizing nesting rest with
  | nothing =>
      rw [absorb_nothing, List.nil_append]
  | @text content position _ lines nodes _ inductionHypothesis =>
      have bothOutside (isOutside : nesting.openTags = []) :
          Text.trimmedLines content = [] ∧ lines = [] :=
        List.append_eq_nil_iff.mp (outside isOutside)
      have taken := nesting.take_text content position fun isOutside => (bothOutside isOutside).1
      rw [List.cons_append, takeAll_cons (by simp) taken]
      rw [inductionHypothesis _
        (fun isOutside =>
          (bothOutside ((openTags_absorb_eq_nil_iff nesting _ _).mp isOutside)).2),
        absorb_absorb, List.nil_append]
  | @selfClosing opening _ lines nodes _ inductionHypothesis =>
      have taken :
          nesting.take
              ⟨.opening opening.name opening.isMacro opening.attributes true, opening.position⟩ =
            .ok (nesting.absorb []
              [⟨opening.name, opening.isMacro, opening.attributes, [], "", opening.position⟩]) := by
        rw [← place_eq_absorb]
        rfl
      rw [List.cons_append, takeAll_cons (by simp) taken]
      rw [inductionHypothesis _
        (fun isOutside => outside ((openTags_absorb_eq_nil_iff nesting _ _).mp isOutside)),
        absorb_absorb, List.nil_append, List.singleton_append]
  | @tag opening closingName position inside rest' innerLines lines children nodes sameName _ _
      insideHypothesis restHypothesis =>
      let tag : OpenTag :=
        { name := opening.name
          isMacro := opening.isMacro
          attributes := opening.attributes
          position := opening.position }
      let opened : Nesting := { nesting with openTags := tag :: nesting.openTags }
      have taken :
          nesting.take
              ⟨.opening opening.name opening.isMacro opening.attributes false, opening.position⟩ =
            .ok opened :=
        rfl
      have closed :
          (opened.absorb innerLines children).take
              ⟨.closing closingName opening.isMacro, position⟩ =
            .ok (nesting.absorb []
              [⟨opening.name, opening.isMacro, opening.attributes, children,
                Text.join "\n" innerLines, opening.position⟩]) := by
        rw [← place_eq_absorb]
        simp [opened, tag, absorb, take, close, OpenTag.isClosedBy, OpenTag.toNode, sameName]
      rw [List.cons_append, takeAll_cons (by simp) taken, List.append_assoc,
        insideHypothesis opened (by simp [opened]), List.cons_append,
        takeAll_cons (by simp) closed]
      rw [restHypothesis _
        (fun isOutside => outside ((openTags_absorb_eq_nil_iff nesting _ _).mp isOutside)),
        absorb_absorb, List.nil_append, List.singleton_append]

/--
The tokens that a nesting has taken in: what its roots spell, then an opening tag and what it
holds so far, and so on up to the innermost open tag.
-/
inductive Covers : List PlacedToken → Nesting → Prop where
  | outside
      {tokens : List PlacedToken}
      {roots : List Node} :
      Spells tokens [] roots.reverse →
      Covers tokens ⟨[], roots⟩
  | inside
      {tokens held : List PlacedToken}
      {tag : OpenTag}
      {outer : List OpenTag}
      {roots : List Node} :
      Covers tokens ⟨outer, roots⟩ →
      Spells held tag.lines.reverse tag.children.reverse →
      Covers
        (tokens ++ ⟨.opening tag.name tag.isMacro tag.attributes false, tag.position⟩ :: held)
        ⟨tag :: outer, roots⟩

namespace Covers

/-- Putting in what further tokens spell covers these tokens, too. -/
theorem absorb
    {tokens added : List PlacedToken}
    {nesting : Nesting}
    {lines : List String}
    {nodes : List Node}
    (covers : Covers tokens nesting)
    (spells : Spells added lines nodes)
    (outside : nesting.openTags = [] → lines = []) :
    Covers (tokens ++ added) (nesting.absorb lines nodes) := by
  cases covers with
  | outside spellsRoots =>
      obtain rfl := outside rfl
      refine .outside ?_
      simpa using spellsRoots.append spells
  | @inside tokens held tag outer roots covers spellsHeld =>
      let filled : OpenTag :=
        { tag with
          children := nodes.reverse ++ tag.children
          lines := lines.reverse ++ tag.lines }
      have spellsFilled : Spells (held ++ added) filled.lines.reverse filled.children.reverse := by
        simpa [filled] using spellsHeld.append spells
      rw [List.append_assoc, List.cons_append]
      exact @Covers.inside tokens (held ++ added) filled outer roots covers spellsFilled

/-- Taking in a token covers that token, too. -/
theorem take
    {tokens : List PlacedToken}
    {nesting next : Nesting}
    {placed : PlacedToken}
    (covers : Covers tokens nesting)
    (more : placed.token ≠ .endOfSource)
    (taken : nesting.take placed = .ok next) :
    Covers (tokens ++ [placed]) next := by
  rcases placed with ⟨token, position⟩
  cases token with
  | endOfSource =>
      exact absurd rfl more
  | text content =>
      have outside := trimmedLines_of_take_text taken
      rw [take_text nesting content position outside] at taken
      cases taken
      exact covers.absorb (Spells.ofText content position) outside
  | opening name isMacro attributes selfClosing =>
      cases selfClosing with
      | true =>
          simp only [Nesting.take, ↓reduceIte, Except.ok.injEq] at taken
          rw [← taken, place_eq_absorb]
          exact covers.absorb
            (.selfClosing ⟨name, isMacro, attributes, position⟩ .nothing) (fun _ => rfl)
      | false =>
          simp only [Nesting.take, Bool.false_eq_true, ↓reduceIte, Except.ok.injEq] at taken
          subst taken
          let tag : OpenTag := { name, isMacro, attributes, position }
          exact @Covers.inside tokens [] tag nesting.openTags nesting.roots covers .nothing
  | closing name isMacro =>
      cases covers with
      | outside spellsRoots =>
          simp [Nesting.take, close] at taken
      | @inside tokens held tag outer roots covers spellsHeld =>
          simp only [Nesting.take, close] at taken
          split at taken
          · rename_i fits
            cases taken
            simp only [OpenTag.isClosedBy, Bool.and_eq_true, beq_iff_eq] at fits
            obtain ⟨sameName, rfl⟩ := fits
            rw [List.append_assoc, List.cons_append, place_eq_absorb]
            refine covers.absorb ?_ (fun _ => rfl)
            exact Spells.tag ⟨tag.name, tag.isMacro, tag.attributes, tag.position⟩ name position
              sameName spellsHeld .nothing
          · cases taken

/-- A nesting that takes in everything up to the end gives what all the tokens spell. -/
theorem takeAll
    {tokens rest : List PlacedToken}
    {nesting : Nesting}
    {forest : List Node}
    (final : Position)
    (covers : Covers tokens nesting)
    (noEarlyEnd : ∀ placed ∈ rest, placed.token ≠ .endOfSource)
    (taken : nesting.takeAll (rest ++ [⟨.endOfSource, final⟩]) = .ok forest) :
    Spells (tokens ++ rest) [] forest := by
  induction rest generalizing tokens nesting with
  | nil =>
      cases covers with
      | outside spellsRoots =>
          simp only [List.nil_append, Nesting.takeAll, ↓reduceIte, finish,
            Except.ok.injEq] at taken
          rw [← taken, List.append_nil]
          exact spellsRoots
      | inside covers spellsHeld =>
          simp [Nesting.takeAll, finish] at taken
  | cons placed rest inductionHypothesis =>
      rw [List.forall_mem_cons] at noEarlyEnd
      cases step : nesting.take placed with
      | error fault =>
          simp [Nesting.takeAll, noEarlyEnd.1, step] at taken
      | ok next =>
          rw [List.cons_append, takeAll_cons noEarlyEnd.1 step] at taken
          have spells :=
            inductionHypothesis (covers.take noEarlyEnd.1 step) noEarlyEnd.2 taken
          simpa using spells

end Covers

end Nesting

/-- The forest of tokens is the one that they spell with no line of text outside. -/
theorem forestOfTokens_eq_ok_iff_spells
    {tokens : List PlacedToken}
    {forest : List Node}
    (final : Position)
    (noEarlyEnd : ∀ placed ∈ tokens, placed.token ≠ .endOfSource) :
    forestOfTokens (tokens ++ [⟨.endOfSource, final⟩]) = .ok forest ↔ Spells tokens [] forest := by
  constructor
  · intro taken
    simpa using Nesting.Covers.takeAll final (.outside .nothing) noEarlyEnd taken
  · intro spells
    rw [forestOfTokens, Nesting.takeAll_append_of_spells spells {} (fun _ => rfl)]
    simp [Nesting.absorb, Nesting.takeAll, Nesting.finish]

/-- What the opening tag of an open tag said. -/
def OpenTag.opening (tag : OpenTag) : Opening :=
  ⟨tag.name, tag.isMacro, tag.attributes, tag.position⟩

namespace Nesting

/-- Putting something in opens no tag and closes none. -/
theorem openings_absorb
    (nesting : Nesting)
    (lines : List String)
    (nodes : List Node) :
    (nesting.absorb lines nodes).openTags.map OpenTag.opening =
      nesting.openTags.map OpenTag.opening := by
  rcases nesting with ⟨_ | ⟨parent, outer⟩, roots⟩ <;> rfl

/-- A token is taken in exactly if it fits where it stands. -/
theorem exists_take_iff_fits
    (nesting : Nesting)
    (placed : PlacedToken)
    (count : Nat)
    (enclosing : List NumberedOpening)
    (same :
      nesting.openTags.map OpenTag.opening = enclosing.map NumberedOpening.opening) :
    (∃ next, nesting.take placed = .ok next) ↔
      (⟨placed, count, enclosing⟩ : SituatedToken).Fits := by
  rcases placed with ⟨token, position⟩
  cases token with
  | endOfSource =>
      simp [take, SituatedToken.Fits]
  | opening name isMacro attributes selfClosing =>
      cases selfClosing <;> simp [take, SituatedToken.Fits]
  | text content =>
      cases openTags : nesting.openTags with
      | nil =>
          obtain rfl : enclosing = [] := by simpa [openTags] using same.symm
          by_cases blank : Text.isBlankText content = true <;>
            simp [take, takeText, openTags, SituatedToken.Fits, blank]
      | cons parent outer =>
          have inside : enclosing ≠ [] := by
            rintro rfl
            simp [openTags] at same
          simp [take, takeText, openTags, SituatedToken.Fits, inside]
  | closing name isMacro =>
      cases openTags : nesting.openTags with
      | nil =>
          obtain rfl : enclosing = [] := by simpa [openTags] using same.symm
          simp [take, close, openTags, SituatedToken.Fits]
      | cons tag outer =>
          cases enclosing with
          | nil =>
              simp [openTags] at same
          | cons innermost others =>
              simp only [openTags, List.map_cons, List.cons.injEq] at same
              have sameName : tag.name = innermost.opening.name :=
                congrArg Opening.name same.1
              have sameMarker : tag.isMacro = innermost.opening.isMacro :=
                congrArg Opening.isMacro same.1
              by_cases fits :
                  innermost.opening.isMacro = isMacro ∧
                    Text.sameName innermost.opening.name name = true
              · simp [take, close, openTags, SituatedToken.Fits, OpenTag.isClosedBy, sameName,
                  sameMarker, fits]
              · simp [take, close, openTags, SituatedToken.Fits, OpenTag.isClosedBy, sameName,
                  sameMarker, fits, and_comm]

/-- Taking in a token opens and closes tags as the brackets do. -/
theorem openings_of_take
    {nesting next : Nesting}
    {placed : PlacedToken}
    {enclosing : List NumberedOpening}
    (count : Nat)
    (same :
      nesting.openTags.map OpenTag.opening = enclosing.map NumberedOpening.opening)
    (taken : nesting.take placed = .ok next) :
    next.openTags.map OpenTag.opening =
      (placed.enclosingAfter count enclosing).map NumberedOpening.opening := by
  rcases placed with ⟨token, position⟩
  cases token with
  | endOfSource =>
      cases taken
      exact same
  | opening name isMacro attributes selfClosing =>
      cases selfClosing with
      | true =>
          cases taken
          rw [place_eq_absorb, openings_absorb]
          exact same
      | false =>
          cases taken
          simp [PlacedToken.enclosingAfter, OpenTag.opening, same]
  | text content =>
      have outside := trimmedLines_of_take_text taken
      rw [take_text nesting content position outside] at taken
      cases taken
      rw [openings_absorb]
      exact same
  | closing name isMacro =>
      cases openTags : nesting.openTags with
      | nil =>
          simp [take, close, openTags] at taken
      | cons tag outer =>
          simp only [take, close, openTags] at taken
          split at taken
          · cases taken
            rw [place_eq_absorb, openings_absorb]
            simpa [PlacedToken.enclosingAfter, openTags] using congrArg List.tail same
          · cases taken

/-- A nesting takes in everything up to the end exactly if all of it fits and closes all tags. -/
theorem exists_takeAll_iff
    {tokens : List PlacedToken}
    (nesting : Nesting)
    (count : Nat)
    (enclosing : List NumberedOpening)
    (final : Position)
    (noEarlyEnd : ∀ placed ∈ tokens, placed.token ≠ .endOfSource)
    (same :
      nesting.openTags.map OpenTag.opening = enclosing.map NumberedOpening.opening) :
    (∃ forest, nesting.takeAll (tokens ++ [⟨.endOfSource, final⟩]) = .ok forest) ↔
      (∀ situated ∈ situate count enclosing tokens, situated.Fits) ∧
        enclosingAfterAll count enclosing tokens = [] := by
  induction tokens generalizing nesting count enclosing with
  | nil =>
      rcases nesting with ⟨_ | ⟨tag, outer⟩, roots⟩
      · obtain rfl : enclosing = [] := by simpa using same.symm
        simp [takeAll, finish, situate, enclosingAfterAll]
      · have inside : enclosing ≠ [] := by
          rintro rfl
          simp at same
        simp [takeAll, finish, situate, enclosingAfterAll, inside]
  | cons placed rest inductionHypothesis =>
      rw [List.forall_mem_cons] at noEarlyEnd
      rw [situate, List.forall_mem_cons, enclosingAfterAll, List.cons_append,
        ← exists_take_iff_fits nesting placed count enclosing same]
      cases step : nesting.take placed with
      | error fault =>
          simp [takeAll, noEarlyEnd.1, step]
      | ok next =>
          rw [takeAll_cons noEarlyEnd.1 step,
            inductionHypothesis next (placed.countThrough count)
              (placed.enclosingAfter count enclosing) noEarlyEnd.2
              (openings_of_take count same step)]
          simp

end Nesting

/--
Tokens up to the end of a source have a forest exactly if they are balanced. The preorder of the
forest is then the sequence of the opening tags, none lost and none twice; every node stands
inside those nodes whose tags are open around its own; and its text is made of the trimmed lines
of the texts that stand directly inside its tags.
-/
theorem forestOfTokens_matches_brackets
    (tokens : List PlacedToken)
    (final : Position)
    (noEarlyEnd : ∀ placed ∈ tokens, placed.token ≠ .endOfSource) :
    ((∃ forest, forestOfTokens (tokens ++ [⟨.endOfSource, final⟩]) = .ok forest) ↔
      IsBalanced tokens) ∧
    ∀ forest, forestOfTokens (tokens ++ [⟨.endOfSource, final⟩]) = .ok forest →
      (Node.outlineAll 0 [] forest).map OutlineEntry.opening =
          tokens.filterMap PlacedToken.opening? ∧
        Node.outlineAll 0 [] forest = outlineOfTokens tokens := by
  constructor
  · rw [forestOfTokens, Nesting.exists_takeAll_iff {} 0 [] final noEarlyEnd rfl]
    exact ⟨fun balanced => ⟨balanced.1, balanced.2⟩,
      fun balanced => ⟨balanced.tokensFit, balanced.noneLeftOpen⟩⟩
  · intro forest taken
    have spells := (forestOfTokens_eq_ok_iff_spells final noEarlyEnd).mp taken
    rw [← spells.outlineOfTokens_eq]
    exact ⟨outlineOfTokens_map_opening tokens, rfl⟩

/-- A self-closing tag between two texts: balanced, and outlined in preorder. -/
theorem forestOfTokens_matches_brackets_nested :
    let tokens : List PlacedToken :=
      [⟨.opening "row" false [] false, ⟨1, 1⟩⟩, ⟨.text " first ", ⟨1, 6⟩⟩,
        ⟨.opening "label" false [⟨"wrap", "true"⟩] true, ⟨1, 13⟩⟩,
        ⟨.text "\n last", ⟨1, 26⟩⟩, ⟨.closing "Row" false, ⟨2, 6⟩⟩]
    let forest : List Node :=
      [⟨"row", false, [],
        [⟨"label", false, [⟨"wrap", "true"⟩], [], "", ⟨1, 13⟩⟩],
        "first\nlast", ⟨1, 1⟩⟩]
    (∀ placed ∈ tokens, placed.token ≠ .endOfSource) ∧
      IsBalanced tokens ∧
      Node.outlineAll 0 [] forest = outlineOfTokens tokens := by
  intro tokens forest
  have noEarlyEnd : ∀ placed ∈ tokens, placed.token ≠ .endOfSource := by
    decide
  have first : Text.trimmedLines " first " = ["first"] := by
    decide +kernel
  have last : Text.trimmedLines "\n last" = ["last"] := by
    decide +kernel
  have joined : Text.join "\n" ["first", "last"] = "first\nlast" := by
    decide +kernel
  have closes : Text.sameName "row" "Row" = true := by
    rw [Text.sameName_iff, ← String.toList_inj]
    simp only [Text.foldCase, String.toList_map]
    decide +kernel
  have inside := Spells.text " first " ⟨1, 6⟩
    (.selfClosing ⟨"label", false, [⟨"wrap", "true"⟩], ⟨1, 13⟩⟩ (.text "\n last" ⟨1, 26⟩ .nothing))
  rw [first, last] at inside
  have spells := Spells.tag ⟨"row", false, [], ⟨1, 1⟩⟩ "Row" ⟨2, 6⟩ closes inside .nothing
  rw [List.append_nil, List.singleton_append, joined] at spells
  have taken := (forestOfTokens_eq_ok_iff_spells ⟨2, 12⟩ noEarlyEnd).2 spells
  have matched := forestOfTokens_matches_brackets tokens ⟨2, 12⟩ noEarlyEnd
  exact ⟨noEarlyEnd, matched.1.mp ⟨forest, taken⟩, (matched.2 forest taken).2⟩

end WidgetMarkup.Markup
