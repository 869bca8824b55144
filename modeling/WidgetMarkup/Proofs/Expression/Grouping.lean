import WidgetMarkup.Expression.Postfix
import WidgetMarkup.Proofs.Expression.Grammar

namespace WidgetMarkup.Expression

/-!
# Grouping by waiting operators

Operators that wait in a list group tokens exactly as the grammar does. A phrase that may stand
behind what waits takes effect as its tree read in postfix order and leaves what waits alone; and
tokens that take effect without a fault are a chain of operands that ends at a closing parenthesis
or at the end of the tokens.
-/

/-- The steps of a tree: operands from left to right, each operator right after its operands. -/
def Tree.steps : Tree → List Step
  | number value => [.number value]
  | text value => [.text value]
  | identifier name => [.identifier name]
  | placeholder source => [.placeholder source]
  | parenthesized inside => inside.steps
  | not operand => operand.steps ++ [.unary .not]
  | negative operand => operand.steps ++ [.unary .minus]
  | binary operator left right => left.steps ++ right.steps ++ [.binary operator]

namespace Evaluation

/-- Steps before steps are put before all others one list after the other. -/
theorem after_after
    (first second : List Step)
    (evaluation : Evaluation) :
    (evaluation.after second).after first = evaluation.after (first ++ second) := by
  simp [after]

end Evaluation

/-- Whether what waits is not settled by operators of a level or of a tighter one. -/
def Holds (level : Nat) (waiting : List Waiting) : Prop :=
  settle level waiting = ([], waiting)

/-- What a level does not settle, a tighter one does not settle either. -/
theorem Holds.tighter
    {level tighter : Nat}
    {waiting : List Waiting}
    (holds : Holds level waiting)
    (isTighter : level ≤ tighter) :
    Holds tighter waiting := by
  unfold Holds at *
  cases waiting with
  | nil =>
      rfl
  | cons first rest =>
      cases first with
      | unary operator =>
          simp [settle] at holds
      | binary operator own =>
          rw [settle] at holds ⊢
          split at holds
          · simp at holds
          · rw [if_neg (by omega)]
      | parenthesis =>
          rfl

/-- An operator between two operands waits while tighter ones are settled. -/
theorem holds_binary
    {own level : Nat}
    (isTighter : own < level)
    (operator : Operator)
    (waiting : List Waiting) :
    Holds level (.binary operator own :: waiting) := by
  rw [Holds, settle, if_neg (by omega)]

/-- What waits takes effect as soon as what follows settles it. -/
theorem operatorFirst_cons
    {item : Waiting}
    {step : Step}
    {waiting : List Waiting}
    {rest : List Token}
    (settlesAll :
      settle 0 (item :: waiting) = (step :: (settle 0 waiting).1, (settle 0 waiting).2))
    (settlesLevel :
      ∀ operator level,
        rest.head? = some (.operator operator) →
          operator.level? = some level →
            settle level (item :: waiting) =
              (step :: (settle level waiting).1, (settle level waiting).2)) :
    operatorFirst (item :: waiting) rest = (operatorFirst waiting rest).after [step] := by
  rcases settled : settle 0 waiting with ⟨steps, outer⟩
  rw [settled] at settlesAll
  cases rest with
  | nil =>
      cases outer <;> simp [operatorFirst, settlesAll, settled, Evaluation.after]
  | cons token rest =>
      cases token with
      | operator operator =>
          cases binds : operator.level? with
          | none =>
              simp [operatorFirst, binds, settlesAll, settled, Evaluation.after]
          | some level =>
              simp [operatorFirst, binds, settlesLevel operator level rfl binds, Evaluation.after]
      | closeParenthesis =>
          rcases outer with _ | ⟨_ | _ | _, outer⟩ <;>
            simp [operatorFirst, settlesAll, settled, Evaluation.after]
      | _ =>
          simp [operatorFirst, settlesAll, settled, Evaluation.after]

/-- An operator before a single operand takes effect right after this operand. -/
theorem operatorFirst_unary
    (operator : Operator)
    (waiting : List Waiting)
    (rest : List Token) :
    operatorFirst (.unary operator :: waiting) rest =
      (operatorFirst waiting rest).after [.unary operator] :=
  operatorFirst_cons rfl fun _ _ _ _ => rfl

/-- An operator of a chain takes effect where an operand of the chain ends. -/
theorem operatorFirst_binary
    {chain : Chain}
    {rest : List Token}
    (ends : chain.operand.EndsBefore rest)
    (operator : Operator)
    (waiting : List Waiting) :
    operatorFirst (.binary operator chain.rank :: waiting) rest =
      (operatorFirst waiting rest).after [.binary operator] := by
  refine operatorFirst_cons (by simp [settle]) fun next level isNext binds => ?_
  have bound := ends next level isNext binds
  rw [chain.rank_operand] at bound
  rw [settle, if_pos (by omega)]

/-- Whether a phrase may stand behind what waits: a chain settles nothing of it. -/
def Phrase.FitsBehind (phrase : Phrase) (waiting : List Waiting) : Prop :=
  ∀ kind, phrase = .chain kind → Holds kind.rank waiting

/-- If the operands of a chain are chains, they bind one step tighter. -/
theorem Chain.rank_of_operand_eq
    {chain kind : Chain}
    (isOperand : chain.operand = .chain kind) :
    kind.rank = chain.rank + 1 := by
  have next := chain.rank_operand
  rw [isOperand] at next
  exact next

/-- An operand of a chain stands behind an operator of the chain. -/
theorem Chain.operand_fitsBehind_binary
    (chain : Chain)
    (operator : Operator)
    (waiting : List Waiting) :
    chain.operand.FitsBehind (.binary operator chain.rank :: waiting) := by
  intro kind isOperand
  rw [Chain.rank_of_operand_eq isOperand]
  exact holds_binary (Nat.lt_succ_self chain.rank) operator waiting

/-- The first operand of a chain stands where the chain stands. -/
theorem Chain.operand_fitsBehind
    {chain : Chain}
    {waiting : List Waiting}
    (holds : Holds chain.rank waiting) :
    chain.operand.FitsBehind waiting := by
  intro kind isOperand
  rw [Chain.rank_of_operand_eq isOperand]
  exact holds.tighter (Nat.le_succ chain.rank)

/-- Links take effect operand by operand, each followed by its operator. -/
theorem operatorFirst_links
    {chain : Chain}
    {links : List Link}
    {waiting : List Waiting}
    {rest : List Token}
    (areOperators : ∀ link ∈ links, link.operator ∈ chain.operators)
    (takeEffect :
      ∀ link ∈ links, ∀ waiting rest,
        chain.operand.FitsBehind waiting →
          chain.operand.EndsBefore rest →
            operandFirst waiting (link.tokens ++ rest) =
              (operatorFirst waiting rest).after link.tree.steps)
    (holds : Holds chain.rank waiting)
    (ends : (Phrase.chain chain).EndsBefore rest)
    (left : Tree) :
    (operatorFirst waiting (links.flatMap Link.words ++ rest)).after left.steps =
      (operatorFirst waiting rest).after (links.foldl Link.attach left).steps := by
  induction links generalizing left with
  | nil =>
      rfl
  | cons link links inductionHypothesis =>
      rw [List.forall_mem_cons] at areOperators takeEffect
      have binds := (chain.mem_operators_iff link.operator).mp areOperators.1
      have behind := Phrase.endsBefore_links areOperators.2 ends
      have waits :
          operatorFirst waiting (.operator link.operator ::
              (link.tokens ++ (links.flatMap Link.words ++ rest))) =
            operandFirst (.binary link.operator chain.rank :: waiting)
              (link.tokens ++ (links.flatMap Link.words ++ rest)) := by
        rw [operatorFirst, binds]
        simp only [show settle chain.rank waiting = _ from holds]
        rfl
      calc
        (operatorFirst waiting ((link :: links).flatMap Link.words ++ rest)).after left.steps
            = (operatorFirst waiting (.operator link.operator ::
                (link.tokens ++ (links.flatMap Link.words ++ rest)))).after left.steps := by
              simp [Link.words]
        _ = ((operatorFirst (.binary link.operator chain.rank :: waiting)
              (links.flatMap Link.words ++ rest)).after link.tree.steps).after left.steps := by
              rw [waits,
                takeEffect.1 _ _ (chain.operand_fitsBehind_binary link.operator waiting) behind]
        _ = (operatorFirst waiting (links.flatMap Link.words ++ rest)).after
              (Link.attach left link).steps := by
              rw [operatorFirst_binary behind, Evaluation.after_after, Evaluation.after_after]
              simp [Link.attach, Tree.steps]
        _ = (operatorFirst waiting rest).after
              ((link :: links).foldl Link.attach left).steps :=
              inductionHypothesis areOperators.2 takeEffect.2 (Link.attach left link)

/-- Wherever it may stand, a phrase takes effect as the steps of its tree. -/
theorem operandFirst_of_derives
    {phrase : Phrase}
    {tokens : List Token}
    {tree : Tree}
    (derives : Derives phrase tokens tree)
    {waiting : List Waiting}
    {rest : List Token}
    (fits : phrase.FitsBehind waiting)
    (ends : phrase.EndsBefore rest) :
    operandFirst waiting (tokens ++ rest) = (operatorFirst waiting rest).after tree.steps := by
  induction derives generalizing waiting rest with
  | @chain chain first tree links _ areOperators _ firstHypothesis linkHypothesis =>
      have holds := fits chain rfl
      rw [List.append_assoc, firstHypothesis (chain.operand_fitsBehind holds)
        (Phrase.endsBefore_links areOperators ends)]
      exact operatorFirst_links areOperators
        (fun link member _ _ => linkHypothesis link member) holds ends tree
  | not _ inductionHypothesis | negative _ inductionHypothesis =>
      simp only [List.cons_append, operandFirst, Operator.isPrefixed, ↓reduceIte]
      rw [inductionHypothesis nofun ends, operatorFirst_unary, Evaluation.after_after]
      rfl
  | primary _ inductionHypothesis =>
      exact inductionHypothesis nofun ends
  | number | text | identifier | placeholder =>
      rfl
  | @parenthesized tokens tree _ inductionHypothesis =>
      have inside := @inductionHypothesis (.parenthesis :: waiting) (.closeParenthesis :: rest)
        (fun _ _ => rfl) (Phrase.endsBefore_closeParenthesis _ rest)
      rw [List.cons_append, operandFirst, List.append_assoc, List.singleton_append, inside]
      rfl

/-- The tokens of a whole expression take effect as the steps of their tree, without a fault. -/
theorem evaluationOfTokens_of_derives
    {tokens : List Token}
    {tree : Tree}
    (derives : Derives (.chain .or) tokens tree) :
    evaluationOfTokens tokens = ⟨tree.steps, none⟩ := by
  have whole := @operandFirst_of_derives _ _ _ derives [] [] (fun _ _ => rfl)
    (Phrase.endsBefore_nil _)
  rw [List.append_nil] at whole
  rw [evaluationOfTokens, whole]
  simp [operatorFirst, settle, Evaluation.after]

/-- The levels of operators are those of the chains. -/
theorem Operator.level_le
    {operator : Operator}
    {level : Nat}
    (binds : operator.level? = some level) :
    level ≤ 5 := by
  cases operator <;> cases binds <;> decide

namespace Derives

/-- An operand alone is a chain. -/
theorem ofOperand
    {chain : Chain}
    {tokens : List Token}
    {tree : Tree}
    (derives : Derives chain.operand tokens tree) :
    Derives (.chain chain) tokens tree := by
  have alone := @Derives.chain chain tokens tree [] derives (by simp) (by simp)
  simpa using alone

/-- A phrase with nothing but operators before a single operand is an operand of every chain. -/
theorem ofUnary
    {tokens : List Token}
    {tree : Tree}
    (derives : Derives .unary tokens tree)
    (chain : Chain) :
    Derives chain.operand tokens tree := by
  have product : Derives (.chain .product) tokens tree := ofOperand derives
  have sum : Derives (.chain .sum) tokens tree := ofOperand product
  have comparison : Derives (.chain .comparison) tokens tree := ofOperand sum
  have equality : Derives (.chain .equality) tokens tree := ofOperand comparison
  have and : Derives (.chain .and) tokens tree := ofOperand equality
  cases chain <;> assumption

/-- A chain goes on with an operator that binds as tightly, or tighter if its operands do. -/
theorem extend_of_operand
    {chain : Chain}
    {left right : List Token}
    {tree operand : Tree}
    {operator : Operator}
    {level : Nat}
    (operandExtends :
      chain.rank < level →
        ∀ {tokens : List Token} {tree : Tree},
          Derives chain.operand tokens tree →
            ∃ longer, Derives chain.operand (tokens ++ .operator operator :: right) longer)
    (binds : operator.level? = some level)
    (tight : chain.rank ≤ level)
    (derives : Derives (.chain chain) left tree)
    (derivesRight : Derives .unary right operand) :
    ∃ longer, Derives (.chain chain) (left ++ .operator operator :: right) longer := by
  cases derives with
  | @chain _ first firstTree links derivesFirst areOperators derivesLinks =>
      rcases Nat.eq_or_lt_of_le tight with same | tighter
      · have isOperator : operator ∈ chain.operators :=
          (chain.mem_operators_iff operator).mpr (same ▸ binds)
        have longer := @Derives.chain chain first firstTree (links ++ [⟨operator, right, operand⟩])
          derivesFirst
          (List.forall_mem_append.mpr ⟨areOperators, List.forall_mem_singleton.mpr isOperator⟩)
          (List.forall_mem_append.mpr
            ⟨derivesLinks, List.forall_mem_singleton.mpr (derivesRight.ofUnary chain)⟩)
        exact ⟨_, by simpa [Link.words] using longer⟩
      · rcases List.eq_nil_or_concat links with rfl | ⟨init, last, rfl⟩
        · obtain ⟨longer, derivesLonger⟩ := operandExtends tighter derivesFirst
          exact ⟨longer, by simpa using ofOperand derivesLonger⟩
        · simp only [List.concat_eq_append, List.forall_mem_append, List.forall_mem_singleton]
            at areOperators derivesLinks
          obtain ⟨longer, derivesLonger⟩ := operandExtends tighter derivesLinks.2
          have longerChain := @Derives.chain chain first firstTree
            (init ++ [⟨last.operator, last.tokens ++ .operator operator :: right, longer⟩])
            derivesFirst
            (List.forall_mem_append.mpr
              ⟨areOperators.1, List.forall_mem_singleton.mpr areOperators.2⟩)
            (List.forall_mem_append.mpr
              ⟨derivesLinks.1, List.forall_mem_singleton.mpr derivesLonger⟩)
          exact ⟨_, by simpa [Link.words] using longerChain⟩

/-- A chain goes on with any operator that binds as tightly or tighter. -/
theorem extend
    {chain : Chain}
    {left right : List Token}
    {tree operand : Tree}
    {operator : Operator}
    {level : Nat}
    (binds : operator.level? = some level)
    (tight : chain.rank ≤ level)
    (derives : Derives (.chain chain) left tree)
    (derivesRight : Derives .unary right operand) :
    ∃ longer, Derives (.chain chain) (left ++ .operator operator :: right) longer := by
  refine extend_of_operand (fun tighter {tokens tree} derivesOperand => ?_) binds tight derives
    derivesRight
  cases shape : chain.operand with
  | chain kind =>
      have next := Chain.rank_of_operand_eq shape
      rw [shape] at derivesOperand
      exact extend binds (by omega) derivesOperand derivesRight
  | unary =>
      have tightest := chain.rank_operand
      rw [shape, Phrase.rank] at tightest
      have bound := Operator.level_le binds
      omega
  | primary =>
      cases chain <;> cases shape
termination_by 6 - chain.rank
decreasing_by
  have bound := Operator.level_le binds
  omega

end Derives

/-- How many parentheses wait to be closed. -/
def openCount (waiting : List Waiting) : Nat :=
  waiting.count .parenthesis

/-- Settling closes no parenthesis. -/
theorem openCount_settle
    (level : Nat)
    (waiting : List Waiting) :
    openCount (settle level waiting).2 = openCount waiting := by
  fun_induction settle level waiting <;> simp_all [openCount]

/-- What begins with an operand without a fault begins with a unary phrase. -/
def OperandSplits (tokens : List Token) : Prop :=
  ∀ waiting,
    (operandFirst waiting tokens).fault = none →
      ∃ front rest tree after,
        tokens = front ++ rest ∧
          Derives .unary front tree ∧
          openCount after = openCount waiting ∧
          (operatorFirst after rest).fault = none

/-- Whether tokens after an operand end the chain: they close a parenthesis, or there are none. -/
def EndsChain (count : Nat) (rest : List Token) : Prop :=
  (rest = [] ∧ count = 0) ∨
    ∃ following outer,
      rest = .closeParenthesis :: following ∧
        openCount outer + 1 = count ∧
        (operatorFirst outer following).fault = none

/-- What goes on after a chain without a fault goes on with the chain up to where it ends. -/
def OperatorSplits (tokens : List Token) : Prop :=
  ∀ waiting front tree,
    (operatorFirst waiting tokens).fault = none →
      Derives (.chain .or) front tree →
        ∃ more rest longer,
          tokens = more ++ rest ∧
            Derives (.chain .or) (front ++ more) longer ∧
            EndsChain (openCount waiting) rest

/-- Tokens that begin with an operand split if all shorter lists of tokens do. -/
theorem operandSplits_of_shorter
    {tokens : List Token}
    (shorter :
      ∀ others : List Token,
        others.length < tokens.length → OperandSplits others ∧ OperatorSplits others) :
    OperandSplits tokens := by
  intro waiting noFault
  cases tokens with
  | nil =>
      cases noFault
  | cons token rest =>
      cases token with
      | number value =>
          exact ⟨[.number value], rest, .number value, waiting, rfl, .primary (.number value), rfl,
            noFault⟩
      | text value =>
          exact ⟨[.text value], rest, .text value, waiting, rfl, .primary (.text value), rfl,
            noFault⟩
      | identifier name =>
          exact ⟨[.identifier name], rest, .identifier name, waiting, rfl,
            .primary (.identifier name), rfl, noFault⟩
      | placeholder source =>
          exact ⟨[.placeholder source], rest, .placeholder source, waiting, rfl,
            .primary (.placeholder source), rfl, noFault⟩
      | operator operator =>
          rw [operandFirst] at noFault
          split at noFault
          · rename_i isPrefixed
            obtain ⟨front, behind, tree, after, rfl, derives, sameCount, goesOn⟩ :=
              (shorter rest (Nat.lt_succ_self _)).1 _ noFault
            have longer : ∃ tree, Derives .unary (.operator operator :: front) tree := by
              cases operator <;> cases isPrefixed
              case minus => exact ⟨_, .negative derives⟩
              case not => exact ⟨_, .not derives⟩
            obtain ⟨tree, derivesLonger⟩ := longer
            exact ⟨.operator operator :: front, behind, tree, after, rfl, derivesLonger,
              by simpa [openCount] using sameCount, goesOn⟩
          · cases noFault
      | openParenthesis =>
          obtain ⟨front, behind, tree, after, rfl, derives, sameCount, goesOn⟩ :=
            (shorter rest (Nat.lt_succ_self _)).1 (.parenthesis :: waiting) noFault
          have isShorter : behind.length < (Token.openParenthesis :: (front ++ behind)).length := by
            simp only [List.length_cons, List.length_append]
            omega
          obtain ⟨more, ending, longer, rfl, derivesInside, ends⟩ :=
            (shorter behind isShorter).2 after front tree goesOn
              (.ofOperand (derives.ofUnary .or))
          have oneMore : openCount after = openCount waiting + 1 := by
            simpa [openCount] using sameCount
          rcases ends with ⟨-, noneOpen⟩ | ⟨following, outer, rfl, closed, goesOn⟩
          · omega
          · exact ⟨.openParenthesis :: ((front ++ more) ++ [.closeParenthesis]), following, _,
              outer, by simp, .primary (.parenthesized derivesInside), by omega, goesOn⟩
      | closeParenthesis =>
          cases noFault

/-- Tokens that go on after an operand split if all shorter lists of tokens do. -/
theorem operatorSplits_of_shorter
    {tokens : List Token}
    (shorter :
      ∀ others : List Token,
        others.length < tokens.length → OperandSplits others ∧ OperatorSplits others) :
    OperatorSplits tokens := by
  intro waiting front tree noFault derives
  cases tokens with
  | nil =>
      refine ⟨[], [], tree, rfl, by simpa using derives, .inl ⟨rfl, ?_⟩⟩
      have sameCount := openCount_settle 0 waiting
      rw [operatorFirst] at noFault
      split at noFault
      · rename_i settled
        simpa [settled, openCount] using sameCount.symm
      · cases noFault
  | cons token rest =>
      cases token with
      | closeParenthesis =>
          have sameCount := openCount_settle 0 waiting
          rw [operatorFirst] at noFault
          split at noFault
          · rename_i steps outer settled
            refine ⟨[], _, tree, rfl, by simpa using derives, .inr ⟨rest, outer, rfl, ?_, noFault⟩⟩
            simpa [settled, openCount] using sameCount
          · cases noFault
      | operator operator =>
          rw [operatorFirst] at noFault
          split at noFault
          · rename_i level binds
            obtain ⟨right, behind, operand, after, rfl, derivesRight, sameCount, goesOn⟩ :=
              (shorter rest (Nat.lt_succ_self _)).1 _ noFault
            obtain ⟨longer, derivesLonger⟩ :=
              Derives.extend binds (show Chain.or.rank ≤ level from Nat.zero_le level) derives
                derivesRight
            have isShorter :
                behind.length < (Token.operator operator :: (right ++ behind)).length := by
              simp only [List.length_cons, List.length_append]
              omega
            obtain ⟨more, ending, longest, rfl, derivesLongest, ends⟩ :=
              (shorter behind isShorter).2 after _ longer goesOn derivesLonger
            have keepsCount : openCount after = openCount waiting := by
              rw [sameCount, ← openCount_settle level waiting]
              simp [openCount]
            exact ⟨.operator operator :: (right ++ more), ending, longest, by simp,
              by simpa using derivesLongest, keepsCount ▸ ends⟩
          · cases noFault
      | _ =>
          cases noFault

/-- All lists of tokens split into phrases as far as they take effect without a fault. -/
theorem operandSplits_and_operatorSplits
    (tokens : List Token) :
    OperandSplits tokens ∧ OperatorSplits tokens :=
  ⟨operandSplits_of_shorter fun others _ => operandSplits_and_operatorSplits others,
    operatorSplits_of_shorter fun others _ => operandSplits_and_operatorSplits others⟩
termination_by tokens.length

/-- Tokens that take effect without a fault are a whole expression. -/
theorem exists_derives_of_no_fault
    {tokens : List Token}
    (noFault : (evaluationOfTokens tokens).fault = none) :
    ∃ tree, Derives (.chain .or) tokens tree := by
  obtain ⟨front, rest, tree, after, rfl, derives, sameCount, goesOn⟩ :=
    (operandSplits_and_operatorSplits tokens).1 [] noFault
  obtain ⟨more, ending, longer, rfl, derivesLonger, ends⟩ :=
    (operandSplits_and_operatorSplits rest).2 after front tree goesOn
      (.ofOperand (derives.ofUnary .or))
  rcases ends with ⟨rfl, -⟩ | ⟨following, outer, -, closed, -⟩
  · exact ⟨longer, by simpa using derivesLonger⟩
  · simp [openCount] at sameCount closed
    omega

end WidgetMarkup.Expression
