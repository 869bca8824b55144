import WidgetMarkup.Proofs.Markup.Bracketing
import WidgetMarkup.Proofs.Text.Lines

namespace WidgetMarkup.Markup

/-!
# What the nesting of tags keeps

The tokens inside a tag spell lines of text and nodes; this is a relation by the brackets. What a
nesting has taken in is always a finished part, then an opening tag and what it holds so far, and
so on inwards. So the trees of a list of tokens are exactly those that it spells with no line of
text outside, and their outline is that of the tokens.
-/

/-- The tokens inside a tag, or outside of all tags, spell lines of text and nodes. -/
inductive Spells : List PlacedToken → List String → List Node → Prop where
  | nothing :
      Spells [] [] []
  | text
      (content : String)
      (position : Position)
      {rest : List PlacedToken}
      {lines : List String}
      {nodes : List Node} :
      Spells rest lines nodes →
      Spells (⟨.text content, position⟩ :: rest) (Text.trimmedLines content ++ lines) nodes
  | selfClosing
      (opening : Opening)
      {rest : List PlacedToken}
      {lines : List String}
      {nodes : List Node} :
      Spells rest lines nodes →
      Spells
        (⟨.opening opening.name opening.isMacro opening.attributes true, opening.position⟩ :: rest)
        lines
        (⟨opening.name, opening.isMacro, opening.attributes, [], "", opening.position⟩ :: nodes)
  | tag
      (opening : Opening)
      (closingName : String)
      (position : Position)
      {inside rest : List PlacedToken}
      {innerLines lines : List String}
      {children nodes : List Node} :
      Text.sameName opening.name closingName = true →
      Spells inside innerLines children →
      Spells rest lines nodes →
      Spells
        (⟨.opening opening.name opening.isMacro opening.attributes false, opening.position⟩ ::
          (inside ++ ⟨.closing closingName opening.isMacro, position⟩ :: rest))
        lines
        (⟨opening.name, opening.isMacro, opening.attributes, children,
          Text.join "\n" innerLines, opening.position⟩ :: nodes)

namespace Spells

/-- What two lists spell comes one after the other. -/
theorem append
    {first second : List PlacedToken}
    {firstLines secondLines : List String}
    {firstNodes secondNodes : List Node}
    (spellsFirst : Spells first firstLines firstNodes)
    (spellsSecond : Spells second secondLines secondNodes) :
    Spells (first ++ second) (firstLines ++ secondLines) (firstNodes ++ secondNodes) := by
  induction spellsFirst with
  | nothing =>
      exact spellsSecond
  | text content position _ inductionHypothesis =>
      rw [List.append_assoc]
      exact .text content position inductionHypothesis
  | selfClosing opening _ inductionHypothesis =>
      exact .selfClosing opening inductionHypothesis
  | tag opening closingName position sameName inside _ _ restHypothesis =>
      simp only [List.cons_append, List.append_assoc]
      exact .tag opening closingName position sameName inside restHypothesis

theorem ofText
    (content : String)
    (position : Position) :
    Spells [⟨.text content, position⟩] (Text.trimmedLines content) [] := by
  simpa using Spells.text content position .nothing

/-- The end of a source is no part of what tokens spell. -/
theorem ne_endOfSource
    {tokens : List PlacedToken}
    {lines : List String}
    {nodes : List Node}
    (spells : Spells tokens lines nodes) :
    ∀ placed ∈ tokens, placed.token ≠ .endOfSource := by
  induction spells with
  | nothing =>
      simp
  | text content position _ inductionHypothesis =>
      simpa using inductionHypothesis
  | selfClosing opening _ inductionHypothesis =>
      simpa using inductionHypothesis
  | tag opening closingName position _ _ _ insideHypothesis restHypothesis =>
      simp only [List.forall_mem_cons, List.forall_mem_append]
      exact ⟨nofun, insideHypothesis, nofun, restHypothesis⟩

/-- There are as many opening tags as nodes. -/
theorem countThroughAll
    {tokens : List PlacedToken}
    {lines : List String}
    {nodes : List Node}
    (spells : Spells tokens lines nodes)
    (count : Nat) :
    Markup.countThroughAll count tokens = count + Node.sizeAll nodes := by
  induction spells generalizing count with
  | nothing =>
      rfl
  | text content position _ inductionHypothesis =>
      exact inductionHypothesis count
  | selfClosing opening _ inductionHypothesis =>
      simp only [Markup.countThroughAll, PlacedToken.countThrough, inductionHypothesis,
        Node.sizeAll, Node.size]
      omega
  | tag opening closingName position _ _ _ insideHypothesis restHypothesis =>
      simp only [Markup.countThroughAll, PlacedToken.countThrough, countThroughAll_append,
        insideHypothesis, restHypothesis, Node.sizeAll, Node.size]
      omega

/-- Every tag is closed again. -/
theorem enclosingAfterAll
    {tokens : List PlacedToken}
    {lines : List String}
    {nodes : List Node}
    (spells : Spells tokens lines nodes)
    (count : Nat)
    (enclosing : List NumberedOpening) :
    Markup.enclosingAfterAll count enclosing tokens = enclosing := by
  induction spells generalizing count enclosing with
  | nothing =>
      rfl
  | text content position _ inductionHypothesis =>
      exact inductionHypothesis count enclosing
  | selfClosing opening _ inductionHypothesis =>
      exact inductionHypothesis (count + 1) enclosing
  | tag opening closingName position _ _ _ insideHypothesis restHypothesis =>
      simp only [Markup.enclosingAfterAll, PlacedToken.countThrough, PlacedToken.enclosingAfter,
        enclosingAfterAll_append, insideHypothesis, restHypothesis, List.tail_cons]

/-- The tokens of a tag, its contents and what follows it, each where it stands. -/
theorem situate_tag
    (opening : Opening)
    (closingName : String)
    (position : Position)
    (count : Nat)
    (enclosing : List NumberedOpening)
    {inside : List PlacedToken}
    (rest : List PlacedToken)
    {lines : List String}
    {children : List Node}
    (spells : Spells inside lines children) :
    situate count enclosing
        (⟨.opening opening.name opening.isMacro opening.attributes false, opening.position⟩ ::
          (inside ++ ⟨.closing closingName opening.isMacro, position⟩ :: rest)) =
      ⟨⟨.opening opening.name opening.isMacro opening.attributes false, opening.position⟩,
        count, enclosing⟩ ::
      (situate (count + 1) (⟨count, opening⟩ :: enclosing) inside ++
        ⟨⟨.closing closingName opening.isMacro, position⟩,
          count + 1 + Node.sizeAll children, ⟨count, opening⟩ :: enclosing⟩ ::
        situate (count + 1 + Node.sizeAll children) enclosing rest) := by
  simp only [situate, PlacedToken.countThrough, PlacedToken.enclosingAfter, situate_append,
    spells.countThroughAll, spells.enclosingAfterAll, List.tail_cons]

/--
Seen from a tag whose number is not among those of the tokens, the tokens have lines directly
inside it only if it is the innermost around all of them.
-/
theorem linesInsideAll_of_outside
    {tokens : List PlacedToken}
    {lines : List String}
    {nodes : List Node}
    (spells : Spells tokens lines nodes)
    (number count : Nat)
    (enclosing : List NumberedOpening)
    (outside : number < count ∨ count + Node.sizeAll nodes ≤ number) :
    linesInsideAll number (situate count enclosing tokens) =
      if enclosing.head?.map NumberedOpening.number = some number then lines else [] := by
  induction spells generalizing count enclosing with
  | nothing =>
      simp [situate, linesInsideAll]
  | text content position _ inductionHypothesis =>
      have rest := inductionHypothesis count enclosing outside
      simp only [situate, linesInsideAll_cons, SituatedToken.linesInside_text,
        PlacedToken.countThrough, PlacedToken.enclosingAfter, rest]
      split <;> rfl
  | selfClosing opening _ inductionHypothesis =>
      simp only [Node.sizeAll, Node.size] at outside
      exact inductionHypothesis (count + 1) enclosing (by omega)
  | @tag opening closingName position inside rest _ _ children nodes _ spellsInside _
      insideHypothesis restHypothesis =>
      simp only [Node.sizeAll, Node.size] at outside
      have different : ¬ count = number := by omega
      have insideLines :=
        insideHypothesis (count + 1) (⟨count, opening⟩ :: enclosing) (by omega)
      have restLines :=
        restHypothesis (count + 1 + Node.sizeAll children) enclosing (by omega)
      simp only [List.head?_cons, Option.map_some, Option.some.injEq, different,
        ↓reduceIte] at insideLines
      rw [situate_tag opening closingName position count enclosing rest spellsInside]
      simp [insideLines, restLines]

/-- The innermost of tags that are all counted before a number does not have the number. -/
private theorem head?_number_ne
    {enclosing : List NumberedOpening}
    {count number : Nat}
    (countedBefore : ∀ outer ∈ enclosing, outer.number < count)
    (reached : count ≤ number) :
    ¬ enclosing.head?.map NumberedOpening.number = some number := by
  cases enclosing with
  | nil =>
      simp
  | cons innermost outer =>
      have before := countedBefore innermost List.mem_cons_self
      simp only [List.head?_cons, Option.map_some, Option.some.injEq]
      omega

/-- Tags counted before a number are counted before every later one, with that number itself. -/
private theorem countedBefore_cons
    {enclosing : List NumberedOpening}
    {count : Nat}
    (countedBefore : ∀ outer ∈ enclosing, outer.number < count)
    (opening : Opening) :
    ∀ outer ∈ (⟨count, opening⟩ :: enclosing : List NumberedOpening), outer.number < count + 1 := by
  intro outer member
  rcases List.mem_cons.mp member with isFirst | inEnclosing
  · simp [isFirst]
  · exact Nat.lt_succ_of_lt (countedBefore outer inEnclosing)

/--
The brackets of tokens give the outline of the nodes that they spell, if all lines that the source
has inside these nodes are from these tokens and all tags around are counted before them.
-/
theorem filterMap_entry?
    {tokens : List PlacedToken}
    {lines : List String}
    {nodes : List Node}
    (spells : Spells tokens lines nodes)
    (source : List SituatedToken)
    (count : Nat)
    (enclosing : List NumberedOpening)
    (countedBefore : ∀ outer ∈ enclosing, outer.number < count)
    (ownLines :
      ∀ number, count ≤ number → number < count + Node.sizeAll nodes →
        linesInsideAll number source = linesInsideAll number (situate count enclosing tokens)) :
    (situate count enclosing tokens).filterMap (SituatedToken.entry? source) =
      Node.outlineAll count (enclosing.map NumberedOpening.number) nodes := by
  induction spells generalizing count enclosing with
  | nothing =>
      rfl
  | @text content position rest _ nodes spellsRest inductionHypothesis =>
      have restLines :
          ∀ number, count ≤ number → number < count + Node.sizeAll nodes →
            linesInsideAll number source =
              linesInsideAll number (situate count enclosing rest) := by
        intro number reached bound
        rw [ownLines number reached bound]
        simp [situate, SituatedToken.linesInside_text, head?_number_ne countedBefore reached,
          PlacedToken.countThrough, PlacedToken.enclosingAfter]
      exact inductionHypothesis count enclosing countedBefore restLines
  | @selfClosing opening rest _ nodes spellsRest inductionHypothesis =>
      simp only [Node.sizeAll, Node.size] at ownLines
      have noLines : linesInsideAll count source = [] := by
        rw [ownLines count (Nat.le_refl count) (by omega), situate, linesInsideAll_cons,
          SituatedToken.linesInside_opening, List.nil_append]
        refine (spellsRest.linesInsideAll_of_outside count (count + 1) enclosing
          (by omega)).trans ?_
        rw [if_neg (head?_number_ne countedBefore (Nat.le_refl count))]
      have rest :=
        inductionHypothesis (count + 1) enclosing
          (fun outer member => Nat.lt_succ_of_lt (countedBefore outer member))
          (fun number reached bound => ownLines number (by omega) (by omega))
      simp only [situate, PlacedToken.countThrough, PlacedToken.enclosingAfter,
        List.filterMap_cons, SituatedToken.entry?_opening, noLines, rest, Node.outlineAll,
        Node.outline, Node.size, Node.sizeAll, Nat.add_zero, List.cons_append, List.nil_append]
      rfl
  | @tag opening closingName position inside rest innerLines _ children nodes _ spellsInside
      spellsRest insideHypothesis restHypothesis =>
      simp only [Node.sizeAll, Node.size] at ownLines
      rw [situate_tag opening closingName position count enclosing rest spellsInside] at ownLines ⊢
      have fromBoth :
          ∀ number, count ≤ number →
            number < count + (1 + Node.sizeAll children + Node.sizeAll nodes) →
            linesInsideAll number source =
              linesInsideAll number (situate (count + 1) (⟨count, opening⟩ :: enclosing) inside) ++
                linesInsideAll number
                  (situate (count + 1 + Node.sizeAll children) enclosing rest) := by
        simpa using ownLines
      -- Lines from behind the tag belong to a tag around it or to one behind it.
      have noneFromRest :
          ∀ number, count ≤ number → number < count + 1 + Node.sizeAll children →
            linesInsideAll number
              (situate (count + 1 + Node.sizeAll children) enclosing rest) = [] := by
        intro number reached bound
        rw [spellsRest.linesInsideAll_of_outside number _ enclosing (Or.inl bound),
          if_neg (head?_number_ne countedBefore reached)]
      have ownText : linesInsideAll count source = innerLines := by
        rw [fromBoth count (Nat.le_refl count) (by omega),
          noneFromRest count (Nat.le_refl count) (by omega), List.append_nil,
          spellsInside.linesInsideAll_of_outside count _ _ (Or.inl (Nat.lt_succ_self count))]
        simp
      have insideOutline :=
        insideHypothesis (count + 1) (⟨count, opening⟩ :: enclosing)
          (countedBefore_cons countedBefore opening)
          (fun number reached bound => by
            rw [fromBoth number (by omega) (by omega), noneFromRest number (by omega) bound,
              List.append_nil])
      have restOutline :=
        restHypothesis (count + 1 + Node.sizeAll children) enclosing
          (fun outer member =>
            Nat.lt_of_lt_of_le (countedBefore outer member) (by omega))
          (fun number reached bound => by
            have different : ¬ count = number := by omega
            rw [fromBoth number (by omega) (by omega),
              spellsInside.linesInsideAll_of_outside number _ _ (Or.inr reached)]
            simp [different])
      simp only [List.filterMap_cons, List.filterMap_append, SituatedToken.entry?_opening,
        SituatedToken.entry?_closing, ownText, insideOutline, restOutline, Node.outlineAll,
        Node.outline, Node.size, List.map_cons, List.cons_append, ← Nat.add_assoc]

/-- The outline of tokens is that of the nodes that they spell. -/
theorem outlineOfTokens_eq
    {tokens : List PlacedToken}
    {lines : List String}
    {nodes : List Node}
    (spells : Spells tokens lines nodes) :
    outlineOfTokens tokens = Node.outlineAll 0 [] nodes :=
  spells.filterMap_entry? (situate 0 [] tokens) 0 [] (by simp) (fun _ _ _ => rfl)

end Spells

end WidgetMarkup.Markup
