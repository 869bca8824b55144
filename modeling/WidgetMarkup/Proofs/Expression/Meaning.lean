import WidgetMarkup.Expression.Evaluate
import WidgetMarkup.Proofs.Expression.Grammar

namespace WidgetMarkup.Expression

/-!
# What expressions mean

The value of a tree from the values of its parts. Both operands of an operator always have a
value, the left one first, and what the resolver remembers is handed from one to the next. A tree
without a value here is one whose evaluation fails.
-/

/-- What is compared between two numbers. -/
def comparison? : Operator → Option (Float → Float → Bool)
  | .below => some fun first second => first < second
  | .atMost => some fun first second => first ≤ second
  | .above => some fun first second => first > second
  | .atLeast => some fun first second => first ≥ second
  | _ => none

/-- What is computed from any two numbers. -/
def arithmetic? : Operator → Option (Float → Float → Float)
  | .minus => some fun first second => first - second
  | .times => some fun first second => first * second
  | _ => none

/-- What is computed from a number and a divisor. -/
def division? : Operator → Option (Float → Float → Float)
  | .divide => some fun first second => first / second
  | .modulo => some Number.Double.remainder
  | _ => none

/-- Whether a value can be read as a number. -/
def Value.IsNumeric (value : Value) : Prop :=
  ∃ number, value.number? = some number

/-- The value of an operator between two values. -/
inductive Combines : Operator → Value → Value → Value → Prop where
  | or
      (left right : Value) :
      Combines .or left right (.boolean (left.isTruthy || right.isTruthy))
  | and
      (left right : Value) :
      Combines .and left right (.boolean (left.isTruthy && right.isTruthy))
  | equalNumbers
      {left right : Value}
      {first second : Float} :
      left.number? = some first →
      right.number? = some second →
      Combines .equal left right (.boolean (first == second))
  | equalTexts
      {left right : Value} :
      ¬ (left.IsNumeric ∧ right.IsNumeric) →
      Combines .equal left right (.boolean (left.render == right.render))
  | notEqualNumbers
      {left right : Value}
      {first second : Float} :
      left.number? = some first →
      right.number? = some second →
      Combines .notEqual left right (.boolean (!(first == second)))
  | notEqualTexts
      {left right : Value} :
      ¬ (left.IsNumeric ∧ right.IsNumeric) →
      Combines .notEqual left right (.boolean (!(left.render == right.render)))
  | comparison
      {operator : Operator}
      {compare : Float → Float → Bool}
      {left right : Value}
      {first second : Float} :
      comparison? operator = some compare →
      left.number? = some first →
      right.number? = some second →
      Combines operator left right (.boolean (compare first second))
  | plusNumbers
      {left right : Value}
      {first second : Float} :
      left.number? = some first →
      right.number? = some second →
      Combines .plus left right (.number (first + second))
  | plusTexts
      {left right : Value} :
      ¬ (left.IsNumeric ∧ right.IsNumeric) →
      Combines .plus left right (.text (left.render ++ right.render))
  | arithmetic
      {operator : Operator}
      {compute : Float → Float → Float}
      {left right : Value}
      {first second : Float} :
      arithmetic? operator = some compute →
      left.number? = some first →
      right.number? = some second →
      Combines operator left right (.number (compute first second))
  | division
      {operator : Operator}
      {divide : Float → Float → Float}
      {left right : Value}
      {first second : Float} :
      division? operator = some divide →
      left.number? = some first →
      right.number? = some second →
      (second == 0.0) = false →
      Combines operator left right (.number (divide first second))

/-- The value of a name that is never looked up. -/
def literal? (name : String) : Option Value :=
  match name with
  | "true" => some (.boolean true)
  | "false" => some (.boolean false)
  | "null" => some .null
  | _ => none

/--
The value of a tree, given what the resolver remembers before, and what it remembers after. A
placeholder is one operand, whatever it stands for.
-/
inductive Evaluates
    {σ : Type}
    (resolve : String → StateM σ (Option String)) :
    Tree → σ → Value → σ → Prop where
  | number
      (value : Float)
      (memory : σ) :
      Evaluates resolve (.number value) memory (.number value) memory
  | text
      (value : String)
      (memory : σ) :
      Evaluates resolve (.text value) memory (.text value) memory
  | literal
      {name : String}
      {value : Value}
      (memory : σ) :
      literal? name = some value →
      Evaluates resolve (.identifier name) memory value memory
  | bound
      {name raw : String}
      {memory after : σ} :
      literal? name = none →
      (resolve name).run memory = (some raw, after) →
      Evaluates resolve (.identifier name) memory (.ofBinding raw) after
  | unbound
      {name : String}
      {memory after : σ} :
      literal? name = none →
      (resolve name).run memory = (none, after) →
      Evaluates resolve (.identifier name) memory (.text name) after
  | placeholder
      {source raw : String}
      {memory after : σ} :
      (resolve source).run memory = (some raw, after) →
      Evaluates resolve (.placeholder source) memory (.ofBinding raw) after
  | parenthesized
      {inside : Tree}
      {value : Value}
      {memory after : σ} :
      Evaluates resolve inside memory value after →
      Evaluates resolve (.parenthesized inside) memory value after
  | not
      {operand : Tree}
      {value : Value}
      {memory after : σ} :
      Evaluates resolve operand memory value after →
      Evaluates resolve (.not operand) memory (.boolean (!value.isTruthy)) after
  | negative
      {operand : Tree}
      {value : Value}
      {number : Float}
      {memory after : σ} :
      Evaluates resolve operand memory value after →
      value.number? = some number →
      Evaluates resolve (.negative operand) memory (.number (-number)) after
  | binary
      {operator : Operator}
      {left right : Tree}
      {first second value : Value}
      {memory between after : σ} :
      Evaluates resolve left memory first between →
      Evaluates resolve right between second after →
      Combines operator first second value →
      Evaluates resolve (.binary operator left right) memory value after

/-- An identifier is looked up unless it is a literal. -/
theorem run_identifier
    {m : Type → Type}
    [Monad m]
    (resolve : String → m (Option String))
    (values : List Value)
    (name : String) :
    (Step.identifier name).run resolve values =
      match literal? name with
      | some value => pure (value :: values)
      | none =>
          ExceptT.lift (resolve name) >>= fun bound =>
            pure (identifierValue name bound :: values) := by
  simp only [Step.run, literal?]
  split
  · rfl
  · rfl
  · rfl
  · simp_all

/-- Values that are not both numbers are compared as texts. -/
theorem areEqual_of_not_numeric
    {left right : Value}
    (notNumeric : ¬ (left.IsNumeric ∧ right.IsNumeric)) :
    areEqual left right = (left.render == right.render) := by
  unfold areEqual
  split
  · rename_i isFirst isSecond
    exact absurd ⟨⟨_, isFirst⟩, _, isSecond⟩ notNumeric
  · rfl

/-- Values that are not both numbers are joined as texts. -/
theorem applyBinary_plus_of_not_numeric
    {left right : Value}
    (notNumeric : ¬ (left.IsNumeric ∧ right.IsNumeric)) :
    applyBinary .plus left right = .ok (.text (left.render ++ right.render)) := by
  simp only [applyBinary]
  split
  · rename_i isFirst isSecond
    exact absurd ⟨⟨_, isFirst⟩, _, isSecond⟩ notNumeric
  · rfl

/-- Values that are not both numbers are refused where numbers are needed. -/
theorem numbers_of_not_numeric
    {left right : Value}
    (notNumeric : ¬ (left.IsNumeric ∧ right.IsNumeric))
    (operator : Operator) :
    numbers operator left right = .error (.notNumeric operator left.render right.render) := by
  unfold numbers
  split
  · rename_i isFirst isSecond
    exact absurd ⟨⟨_, isFirst⟩, _, isSecond⟩ notNumeric
  · rfl

theorem numbers_of_numeric
    {left right : Value}
    {first second : Float}
    (isFirst : left.number? = some first)
    (isSecond : right.number? = some second)
    (operator : Operator) :
    numbers operator left right = .ok (first, second) := by
  simp [numbers, isFirst, isSecond]

/-- An operator that has a value between two values is applied with this value. -/
theorem Combines.applyBinary_eq
    {operator : Operator}
    {left right value : Value}
    (combines : Combines operator left right value) :
    applyBinary operator left right = .ok value := by
  cases combines with
  | or | and =>
      rfl
  | equalNumbers isFirst isSecond | notEqualNumbers isFirst isSecond =>
      simp [applyBinary, areEqual, isFirst, isSecond]
  | equalTexts notNumeric | notEqualTexts notNumeric =>
      simp [applyBinary, areEqual_of_not_numeric notNumeric]
  | plusNumbers isFirst isSecond =>
      simp [applyBinary, isFirst, isSecond]
  | plusTexts notNumeric =>
      exact applyBinary_plus_of_not_numeric notNumeric
  | comparison isComparison isFirst isSecond =>
      have both := numbers_of_numeric isFirst isSecond operator
      cases operator <;> cases isComparison <;> simp [applyBinary, both, Except.map]
  | arithmetic isArithmetic isFirst isSecond =>
      have both := numbers_of_numeric isFirst isSecond operator
      cases operator <;> cases isArithmetic <;> simp [applyBinary, both, Except.map]
  | division isDivision isFirst isSecond notZero =>
      have both := numbers_of_numeric isFirst isSecond operator
      cases operator <;> cases isDivision <;>
        simp [applyBinary, both, Except.bind, dividing, notZero]

/-- An operator that is applied with a value has this value. -/
theorem combines_of_applyBinary
    {operator : Operator}
    {left right value : Value}
    (applied : applyBinary operator left right = .ok value) :
    Combines operator left right value := by
  by_cases numeric : left.IsNumeric ∧ right.IsNumeric
  · obtain ⟨⟨first, isFirst⟩, second, isSecond⟩ := numeric
    have both := numbers_of_numeric isFirst isSecond operator
    have compared (compare : Float → Float → Bool)
        (isComparison : comparison? operator = some compare) :
        Combines operator left right (.boolean (compare first second)) :=
      .comparison isComparison isFirst isSecond
    cases operator with
    | or | and =>
        cases applied
        constructor
    | equal =>
        simp only [applyBinary, areEqual, isFirst, isSecond] at applied
        cases applied
        exact .equalNumbers isFirst isSecond
    | notEqual =>
        simp only [applyBinary, areEqual, isFirst, isSecond] at applied
        cases applied
        exact .notEqualNumbers isFirst isSecond
    | below | atMost | above | atLeast =>
        simp only [applyBinary, both, Except.map] at applied
        cases applied
        exact compared _ rfl
    | plus =>
        simp only [applyBinary, isFirst, isSecond] at applied
        cases applied
        exact .plusNumbers isFirst isSecond
    | minus | times =>
        simp only [applyBinary, both, Except.map] at applied
        cases applied
        exact .arithmetic rfl isFirst isSecond
    | divide | modulo =>
        simp only [applyBinary, both, Except.bind, dividing] at applied
        split at applied
        · cases applied
        · rename_i notZero
          cases applied
          exact .division rfl isFirst isSecond (by simpa using notZero)
    | not =>
        cases applied
  · have neither := numbers_of_not_numeric numeric operator
    cases operator with
    | or | and =>
        cases applied
        constructor
    | equal =>
        rw [applyBinary, areEqual_of_not_numeric numeric] at applied
        cases applied
        exact .equalTexts numeric
    | notEqual =>
        rw [applyBinary, areEqual_of_not_numeric numeric] at applied
        cases applied
        exact .notEqualTexts numeric
    | plus =>
        rw [applyBinary_plus_of_not_numeric numeric] at applied
        cases applied
        exact .plusTexts numeric
    | below | atMost | above | atLeast | minus | times | divide | modulo =>
        simp only [applyBinary, neither, Except.map, Except.bind] at applied
        cases applied
    | not =>
        cases applied

end WidgetMarkup.Expression
