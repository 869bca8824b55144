import WidgetMarkup.Expression.Token

namespace WidgetMarkup.Expression

/-!
# The grammar of expressions

A chain is one operand and then any number of operators, each with one more operand; the operands
of a chain are the phrases that bind one step tighter. Chains group to the left. A list of tokens
has one tree at most, as every phrase ends before the first operator that is not its own.
-/

/-- An expression as the grammar groups it. -/
inductive Tree where
  | number (value : Float)
  | text (value : String)
  | identifier (name : String)
  | placeholder (source : String)
  | parenthesized (inside : Tree)
  | not (operand : Tree)
  | negative (operand : Tree)
  | binary (operator : Operator) (left right : Tree)

/-- The chains of the grammar, from the one that binds least. -/
inductive Chain where
  | or
  | and
  | equality
  | comparison
  | sum
  | product
deriving DecidableEq

/-- The phrases of the grammar. -/
inductive Phrase where
  | chain (kind : Chain)
  /-- Operators before a single operand. -/
  | unary
  | primary

namespace Chain

/-- The operators between the operands of a chain. -/
def operators : Chain → List Operator
  | or => [.or]
  | and => [.and]
  | equality => [.equal, .notEqual]
  | comparison => [.below, .atMost, .above, .atLeast]
  | sum => [.plus, .minus]
  | product => [.times, .divide, .modulo]

/-- The phrases that a chain has for operands. -/
def operand : Chain → Phrase
  | or => .chain and
  | and => .chain equality
  | equality => .chain comparison
  | comparison => .chain sum
  | sum => .chain product
  | product => .unary

/-- How tightly a chain binds. -/
def rank : Chain → Nat
  | or => 0
  | and => 1
  | equality => 2
  | comparison => 3
  | sum => 4
  | product => 5

end Chain

/-- How tightly a phrase binds. -/
def Phrase.rank : Phrase → Nat
  | .chain kind => kind.rank
  | .unary => 6
  | .primary => 6

/-- An operator of a chain with the operand behind it. -/
structure Link where
  operator : Operator
  tokens : List Token
  tree : Tree

namespace Link

/-- The tokens of a link. -/
def words (link : Link) : List Token :=
  .operator link.operator :: link.tokens

/-- A tree that goes on with a link. -/
def attach (left : Tree) (link : Link) : Tree :=
  .binary link.operator left link.tree

end Link

/-- The tokens spell a phrase with the given tree. -/
inductive Derives : Phrase → List Token → Tree → Prop where
  | chain
      {chain : Chain}
      {first : List Token}
      {tree : Tree}
      {links : List Link} :
      Derives chain.operand first tree →
      (∀ link ∈ links, link.operator ∈ chain.operators) →
      (∀ link ∈ links, Derives chain.operand link.tokens link.tree) →
      Derives (.chain chain) (first ++ links.flatMap Link.words) (links.foldl Link.attach tree)
  | not
      {tokens : List Token}
      {tree : Tree} :
      Derives .unary tokens tree →
      Derives .unary (.operator .not :: tokens) (.not tree)
  | negative
      {tokens : List Token}
      {tree : Tree} :
      Derives .unary tokens tree →
      Derives .unary (.operator .minus :: tokens) (.negative tree)
  | primary
      {tokens : List Token}
      {tree : Tree} :
      Derives .primary tokens tree →
      Derives .unary tokens tree
  | number
      (value : Float) :
      Derives .primary [.number value] (.number value)
  | text
      (value : String) :
      Derives .primary [.text value] (.text value)
  | identifier
      (name : String) :
      Derives .primary [.identifier name] (.identifier name)
  | placeholder
      (source : String) :
      Derives .primary [.placeholder source] (.placeholder source)
  | parenthesized
      {tokens : List Token}
      {tree : Tree} :
      Derives (.chain .or) tokens tree →
      Derives .primary (.openParenthesis :: (tokens ++ [.closeParenthesis])) (.parenthesized tree)

/-- The operands of a chain bind one step tighter. -/
theorem Chain.rank_operand
    (chain : Chain) :
    chain.operand.rank = chain.rank + 1 := by
  cases chain <;> rfl

/-- The operators of a chain are those that bind as tightly as the chain. -/
theorem Chain.mem_operators_iff
    (chain : Chain)
    (operator : Operator) :
    operator ∈ chain.operators ↔ operator.level? = some chain.rank := by
  cases chain <;> cases operator <;> decide

/-- Whether a phrase cannot go on into the tokens behind it. -/
def Phrase.EndsBefore (phrase : Phrase) (rest : List Token) : Prop :=
  ∀ operator level,
    rest.head? = some (.operator operator) → operator.level? = some level → level < phrase.rank

namespace Phrase

theorem endsBefore_nil
    (phrase : Phrase) :
    phrase.EndsBefore [] := by
  intro operator level next
  cases next

theorem endsBefore_closeParenthesis
    (phrase : Phrase)
    (rest : List Token) :
    phrase.EndsBefore (.closeParenthesis :: rest) := by
  intro operator level next
  cases next

/-- An operand of a chain ends before the links and what follows the chain. -/
theorem endsBefore_links
    {chain : Chain}
    {links : List Link}
    {rest : List Token}
    (areOperators : ∀ link ∈ links, link.operator ∈ chain.operators)
    (ends : (Phrase.chain chain).EndsBefore rest) :
    chain.operand.EndsBefore (links.flatMap Link.words ++ rest) := by
  intro operator level next binds
  rw [chain.rank_operand]
  cases links with
  | nil =>
      exact Nat.lt_succ_of_lt (ends operator level next binds)
  | cons link others =>
      obtain rfl : link.operator = operator := by
        simpa [Link.words] using next
      have own := (chain.mem_operators_iff link.operator).mp
        (areOperators link List.mem_cons_self)
      rw [own, Option.some.injEq] at binds
      omega

/-- No chain ends before a link of its own. -/
theorem not_endsBefore_link
    {chain : Chain}
    {link : Link}
    (isOperator : link.operator ∈ chain.operators)
    (rest : List Token) :
    ¬ (Phrase.chain chain).EndsBefore (link.words ++ rest) := by
  intro ends
  have binds := (chain.mem_operators_iff link.operator).mp isOperator
  exact Nat.lt_irrefl chain.rank (ends link.operator chain.rank rfl binds)

end Phrase

namespace Derives

/-- A primary begins with no operator. -/
theorem primary_ne_operator
    {tokens rest following : List Token}
    {tree : Tree}
    {operator : Operator}
    (derives : Derives .primary tokens tree) :
    tokens ++ rest ≠ .operator operator :: following := by
  cases derives <;> simp

/-- The links behind equal operands are equal if their operands can be told apart. -/
theorem links_unique
    {chain : Chain}
    {links others : List Link}
    {rest rest' : List Token}
    (areOperators : ∀ link ∈ links, link.operator ∈ chain.operators)
    (otherOperators : ∀ link ∈ others, link.operator ∈ chain.operators)
    (unique :
      ∀ link ∈ links, ∀ {tokens after after' : List Token} {tree : Tree},
        Derives chain.operand tokens tree →
          link.tokens ++ after = tokens ++ after' →
            chain.operand.EndsBefore after →
              chain.operand.EndsBefore after' → link.tokens = tokens ∧ link.tree = tree)
    (otherOperands : ∀ link ∈ others, Derives chain.operand link.tokens link.tree)
    (same : links.flatMap Link.words ++ rest = others.flatMap Link.words ++ rest')
    (ends : (Phrase.chain chain).EndsBefore rest)
    (ends' : (Phrase.chain chain).EndsBefore rest') :
    links = others := by
  induction links generalizing others with
  | nil =>
      cases others with
      | nil =>
          rfl
      | cons other others =>
          rw [List.flatMap_nil, List.nil_append, List.flatMap_cons, List.append_assoc] at same
          rw [same] at ends
          exact absurd ends
            (Phrase.not_endsBefore_link (otherOperators other List.mem_cons_self) _)
  | cons link links inductionHypothesis =>
      rw [List.forall_mem_cons] at areOperators unique
      cases others with
      | nil =>
          rw [List.flatMap_nil, List.nil_append, List.flatMap_cons, List.append_assoc] at same
          rw [← same] at ends'
          exact absurd ends' (Phrase.not_endsBefore_link areOperators.1 _)
      | cons other others =>
          rw [List.forall_mem_cons] at otherOperators otherOperands
          simp only [List.flatMap_cons, Link.words, List.cons_append, List.append_assoc,
            List.cons.injEq, Token.operator.injEq] at same
          obtain ⟨sameOperator, sameBehind⟩ := same
          obtain ⟨sameTokens, sameTree⟩ :=
            unique.1 otherOperands.1 sameBehind
              (Phrase.endsBefore_links areOperators.2 ends)
              (Phrase.endsBefore_links otherOperators.2 ends')
          rw [sameTokens, List.append_cancel_left_eq] at sameBehind
          have sameLink : link = other := by
            cases link
            cases other
            simp_all
          rw [sameLink, inductionHypothesis areOperators.2 otherOperators.2 unique.2
            otherOperands.2 sameBehind]

/-- Where two phrases of one kind begin with the same tokens, they are one phrase. -/
theorem unique
    {phrase : Phrase}
    {tokens tokens' rest rest' : List Token}
    {tree tree' : Tree}
    (derives : Derives phrase tokens tree)
    (derives' : Derives phrase tokens' tree')
    (same : tokens ++ rest = tokens' ++ rest')
    (ends : phrase.EndsBefore rest)
    (ends' : phrase.EndsBefore rest') :
    tokens = tokens' ∧ tree = tree' := by
  induction derives generalizing tokens' tree' rest rest' with
  | @chain chain first tree links _ areOperators _ firstHypothesis linkHypothesis =>
      cases derives' with
      | @chain _ first' tree' links' derivesFirst' areOperators' derivesLinks' =>
          rw [List.append_assoc, List.append_assoc] at same
          obtain ⟨rfl, rfl⟩ :=
            firstHypothesis derivesFirst' same (Phrase.endsBefore_links areOperators ends)
              (Phrase.endsBefore_links areOperators' ends')
          rw [List.append_cancel_left_eq] at same
          obtain rfl :=
            links_unique areOperators areOperators' linkHypothesis derivesLinks' same ends ends'
          exact ⟨rfl, rfl⟩
  | not _ inductionHypothesis =>
      cases derives' with
      | not derivesOperand' =>
          obtain ⟨rfl, rfl⟩ :=
            inductionHypothesis derivesOperand' (List.tail_eq_of_cons_eq same) ends ends'
          exact ⟨rfl, rfl⟩
      | negative =>
          simp at same
      | primary derivesPrimary' =>
          exact absurd same.symm derivesPrimary'.primary_ne_operator
  | negative _ inductionHypothesis =>
      cases derives' with
      | not =>
          simp at same
      | negative derivesOperand' =>
          obtain ⟨rfl, rfl⟩ :=
            inductionHypothesis derivesOperand' (List.tail_eq_of_cons_eq same) ends ends'
          exact ⟨rfl, rfl⟩
      | primary derivesPrimary' =>
          exact absurd same.symm derivesPrimary'.primary_ne_operator
  | primary derivesPrimary inductionHypothesis =>
      cases derives' with
      | not | negative =>
          exact absurd same derivesPrimary.primary_ne_operator
      | primary derivesPrimary' =>
          exact inductionHypothesis derivesPrimary' same ends ends'
  | number | text | identifier | placeholder =>
      cases derives' <;> simp_all
  | parenthesized _ inductionHypothesis =>
      cases derives' with
      | parenthesized derivesInside' =>
          simp only [List.cons_append, List.append_assoc, List.cons.injEq, true_and] at same
          obtain ⟨rfl, rfl⟩ :=
            inductionHypothesis derivesInside' same (Phrase.endsBefore_closeParenthesis _ _)
              (Phrase.endsBefore_closeParenthesis _ _)
          exact ⟨rfl, rfl⟩
      | _ =>
          simp at same

end Derives

end WidgetMarkup.Expression
