import WidgetMarkup.Proofs.Construction.Parallel
import WidgetMarkup.Proofs.Markup.Respelling
import WidgetMarkup.Proofs.Vocabulary.StandardDeclarations

namespace WidgetMarkup

open Markup

/-!
# Macros do not see the spelling of names

The scripts of two calls that differ in the spelling of names take the same steps, on nodes that
differ in no more than that. So it is for the macros of the language, and for those of documents if
their bodies differ in no more either.
-/

variable {isTag : String → Bool}

/-- Whether a call is another one but for the spelling of names inside it and for its own name. -/
structure MacroCall.IsRespelling (isTag : String → Bool) (call call' : MacroCall) : Prop where
  attributes : call.attributes = call'.attributes
  children : Node.AreRespellings isTag call.children call'.children
  text : call.text = call'.text

/-- Whether two scripts take the same steps, on nodes that differ in the spelling of names. -/
inductive Script.Parallel (isTag : String → Bool) : Script → Script → Prop where
  | finish
      {nodes nodes' : List Node}
      (respelled : Node.AreRespellings isTag nodes nodes')
      (scope : Scope) :
      Parallel isTag (.finish nodes scope) (.finish nodes' scope)
  | fail
      {problem problem' : Problem}
      (sameKind : problem.SameKind problem') :
      Parallel isTag (.fail problem) (.fail problem')
  | charge
      {next next' : Script}
      (rest : Parallel isTag next next') :
      Parallel isTag (.charge next) (.charge next')
  | expand
      {nodes nodes' : List Node}
      {next next' : List Node → Scope → Script}
      (respelled : Node.AreRespellings isTag nodes nodes')
      (scope : Scope)
      (rest :
        ∀ expanded expanded' left,
          Node.AreRespellings isTag expanded expanded' →
            Parallel isTag (next expanded left) (next' expanded' left)) :
      Parallel isTag (.expand nodes scope next) (.expand nodes' scope next')
  | insertTemplate
      {content content' : List Node}
      {next next' : List Node → Script}
      (template marker : String)
      (respelled : Node.AreRespellings isTag content content')
      (scope : Scope)
      (rest :
        ∀ expanded expanded',
          Node.AreRespellings isTag expanded expanded' →
            Parallel isTag (next expanded) (next' expanded')) :
      Parallel isTag (.insertTemplate template marker content scope next)
        (.insertTemplate template marker content' scope next')
  | interpolate
      {next next' : String → Script}
      (raw : String)
      (scope : Scope)
      (rest : ∀ text, Parallel isTag (next text) (next' text)) :
      Parallel isTag (.interpolate raw scope next) (.interpolate raw scope next')
  | evaluate
      {next next' : Expression.Value → Script}
      (source : String)
      (scope : Scope)
      (rest : ∀ value, Parallel isTag (next value) (next' value)) :
      Parallel isTag (.evaluate source scope next) (.evaluate source scope next')
  | invoke
      {next next' : Option String → Script}
      (reference : String)
      (rest : ∀ answer, Parallel isTag (next answer) (next' answer)) :
      Parallel isTag (.invoke reference next) (.invoke reference next')
  | define
      {body body' : Sources → MacroCall → Scope → Script}
      {next next' : Script}
      (name : String)
      (interpolates : Bool)
      (bodies :
        ∀ sources call call' scope,
          MacroCall.IsRespelling isTag call call' →
            Parallel isTag (body sources call scope) (body' sources call' scope))
      (rest : Parallel isTag next next') :
      Parallel isTag (.define name interpolates body next) (.define name interpolates body' next')
  | addDefault
      {next next' : Script}
      (tag : String)
      (entry : Attribute)
      (rest : Parallel isTag next next') :
      Parallel isTag (.addDefault tag entry next) (.addDefault tag entry next')
  | record
      {next next' : Script}
      (level : LogLevel)
      (text text' : String)
      (rest : Parallel isTag next next') :
      Parallel isTag (.record level text next) (.record level text' next')

/-- Whether two macros act in parallel on calls that differ in the spelling of names. -/
structure MacroRule.Parallel (isTag : String → Bool) (rule rule' : MacroRule) : Prop where
  interpolates : rule.interpolates = rule'.interpolates
  script :
    ∀ sources call call' scope,
      MacroCall.IsRespelling isTag call call' →
        Script.Parallel isTag (rule.script sources call scope) (rule'.script sources call' scope)

theorem MacroCall.attribute?_congr
    {call call' : MacroCall}
    (same : call.attributes = call'.attributes)
    (name : String) :
    call.attribute? name = call'.attribute? name := by
  unfold attribute?
  rw [same]

namespace Script

/-- A call that must have an attribute has it in both spellings or in none. -/
theorem parallel_require
    {call call' : MacroCall}
    (same : call.attributes = call'.attributes)
    {name : String}
    {next next' : String → Script}
    (rest : ∀ value, Parallel isTag (next value) (next' value)) :
    Parallel isTag (call.require name next) (call'.require name next') := by
  unfold MacroCall.require
  rw [MacroCall.attribute?_congr same]
  split
  · exact rest _
  · exact .fail rfl

theorem parallel_repeatFrom
    {nodes nodes' : List Node}
    (respelled : Node.AreRespellings isTag nodes nodes')
    (scope : Scope)
    (bindings : Nat → List (String × String))
    (remaining index : Nat)
    {expanded expanded' : List (List Node)}
    (before :
      Node.AreRespellings isTag expanded.reverse.flatten expanded'.reverse.flatten) :
    Parallel isTag (repeatFrom nodes scope bindings index expanded remaining)
      (repeatFrom nodes' scope bindings index expanded' remaining) := by
  induction remaining generalizing index expanded expanded' with
  | zero =>
      exact .finish before scope
  | succ remaining inductionHypothesis =>
      refine .charge (.expand respelled _ fun nodes nodes' _ last => ?_)
      exact inductionHypothesis _ (before.of_flatten_concat last)

theorem parallel_repeatTimes
    {nodes nodes' : List Node}
    (respelled : Node.AreRespellings isTag nodes nodes')
    (scope : Scope)
    (count : Nat)
    (bindings : Nat → List (String × String)) :
    Parallel isTag (repeatTimes nodes scope count bindings)
      (repeatTimes nodes' scope count bindings) :=
  parallel_repeatFrom respelled scope bindings count 0 .nil

theorem parallel_defineAll
    {rule rule' : MacroRule}
    (rules : MacroRule.Parallel isTag rule rule')
    {next next' : Script}
    (rest : Parallel isTag next next')
    (aliases : List String) :
    Parallel isTag (defineAll aliases rule next) (defineAll aliases rule' next') := by
  obtain ⟨interpolates, script⟩ := rule
  obtain ⟨_, script'⟩ := rule'
  obtain ⟨rfl, bodies⟩ := rules
  induction aliases with
  | nil =>
      exact rest
  | cons first others inductionHypothesis =>
      exact .define first interpolates bodies inductionHypothesis

end Script

namespace UserMacro

theorem parallel_bindDefaults
    {next next' : Scope → Script}
    (rest : ∀ scope, Script.Parallel isTag (next scope) (next' scope))
    (parameters : List Attribute)
    (scope : Scope) :
    Script.Parallel isTag (bindDefaults parameters scope next)
      (bindDefaults parameters scope next') := by
  induction parameters generalizing scope with
  | nil =>
      exact rest scope
  | cons parameter others inductionHypothesis =>
      exact .interpolate _ scope fun value => inductionHypothesis _

/-- Macros of documents are parallel if their bodies differ in the spelling of names only. -/
theorem parallel_toRule
    (marker : String)
    (parameters : List Attribute)
    {body body' : List Node}
    (respelled : Node.AreRespellings isTag body body') :
    MacroRule.Parallel isTag (toRule ⟨marker, parameters, body⟩)
      (toRule ⟨marker, parameters, body'⟩) := by
  refine ⟨rfl, fun sources call call' scope same => ?_⟩
  refine parallel_bindDefaults (fun inner => ?_) parameters scope.child
  dsimp only
  rw [same.attributes]
  exact .expand (same.children.replaceMarkers respelled) _ fun nodes nodes' _ respelled =>
    .finish respelled scope

end UserMacro

namespace StandardMacro

/-- The branches of a condition are split at the same place. -/
theorem respelled_splitAtElse
    {nodes nodes' : List Node}
    (respelled : Node.AreRespellings isTag nodes nodes') :
    Node.AreRespellings isTag (splitAtElse nodes).1 (splitAtElse nodes').1 ∧
      Node.AreRespellings isTag (splitAtElse nodes).2 (splitAtElse nodes').2 := by
  induction nodes generalizing nodes' with
  | nil =>
      cases respelled
      exact ⟨.nil, .nil⟩
  | cons node rest inductionHypothesis =>
      cases respelled with
      | cons first others =>
          rw [splitAtElse, splitAtElse, first.isMarkerNamed]
          split
          · exact ⟨.nil, others⟩
          · obtain ⟨before, after⟩ := inductionHypothesis others
            exact ⟨.cons first before, after⟩

theorem attributeOrFirst?_congr
    {call call' : MacroCall}
    (same : call.attributes = call'.attributes)
    (name : String) :
    attributeOrFirst? call name = attributeOrFirst? call' name := by
  unfold attributeOrFirst?
  rw [MacroCall.attribute?_congr same, same]

theorem parallel_condition :
    condition.Parallel isTag condition := by
  refine ⟨rfl, fun sources call call' scope same => ?_⟩
  simp only [condition]
  rw [attributeOrFirst?_congr same.attributes]
  split
  · exact .fail rfl
  · obtain ⟨holding, otherwise⟩ := respelled_splitAtElse same.children
    refine .evaluate _ scope fun value => .expand ?_ scope fun _ _ left respelled =>
      .finish respelled left
    split
    · exact holding
    · exact otherwise

theorem parallel_whenBound
    (all : Bool) :
    (whenBound all).Parallel isTag (whenBound all) := by
  refine ⟨rfl, fun sources call call' scope same => ?_⟩
  simp only [whenBound]
  rw [same.attributes]
  generalize (if all = true then _ else _ : Bool) = holds
  split
  · exact .expand same.children scope fun _ _ left respelled => .finish respelled left
  · exact .finish .nil scope

theorem parallel_forEach :
    forEach.Parallel isTag forEach := by
  refine ⟨rfl, fun sources call call' scope same => ?_⟩
  simp only [forEach, listsOf]
  rw [same.attributes]
  split
  · exact .fail rfl
  · split
    · exact .fail rfl
    · exact Script.parallel_repeatTimes same.children scope _ _

theorem parallel_forEachNested :
    forEachNested.Parallel isTag forEachNested := by
  refine ⟨rfl, fun sources call call' scope same => ?_⟩
  simp only [forEachNested, listsOf]
  rw [same.attributes]
  split
  · exact .fail rfl
  · exact Script.parallel_repeatTimes same.children scope _ _

theorem parallel_loop :
    loop.Parallel isTag loop := by
  refine ⟨rfl, fun sources call call' scope same => ?_⟩
  simp only [loop]
  rw [attributeOrFirst?_congr same.attributes, MacroCall.attribute?_congr same.attributes]
  split
  · exact .fail rfl
  · split
    · exact .fail rfl
    · exact Script.parallel_repeatTimes same.children scope _ _

theorem parallel_assign :
    assign.Parallel isTag assign := by
  refine ⟨rfl, fun sources call call' scope same => ?_⟩
  simp only [assign]
  rw [same.attributes]
  exact .finish .nil _

theorem parallel_calculateAll
    (attributes : List Attribute)
    (scope : Scope) :
    (calculateAll attributes scope).Parallel isTag (calculateAll attributes scope) := by
  induction attributes generalizing scope with
  | nil =>
      exact .finish .nil scope
  | cons entry rest inductionHypothesis =>
      exact .evaluate _ scope fun value => inductionHypothesis _

theorem parallel_invokeAll
    (attributes : List Attribute)
    (scope : Scope) :
    (invokeAll attributes scope).Parallel isTag (invokeAll attributes scope) := by
  induction attributes generalizing scope with
  | nil =>
      exact .finish .nil scope
  | cons entry rest inductionHypothesis =>
      refine .invoke _ fun answer => ?_
      cases answer <;> exact inductionHypothesis _

/-- Paths are told to the log and to nothing else. -/
theorem parallel_bindFrom
    (source : Scope → String → Option String)
    (path path' : TagPath)
    (attributes : List Attribute)
    (scope : Scope) :
    (bindFrom source path attributes scope).Parallel isTag
      (bindFrom source path' attributes scope) := by
  induction attributes generalizing scope with
  | nil =>
      exact .finish .nil scope
  | cons entry rest inductionHypothesis =>
      rw [bindFrom, bindFrom]
      split
      · exact inductionHypothesis _
      · exact .record _ _ _ (inductionHypothesis _)

theorem parallel_template :
    template.Parallel isTag template := by
  refine ⟨rfl, fun sources call call' scope same => ?_⟩
  refine Script.parallel_require same.attributes fun path => ?_
  rw [MacroCall.attribute?_congr same.attributes]
  exact .insertTemplate path _ same.children scope fun _ _ respelled => .finish respelled scope

theorem parallel_withMessage
    {call call' : MacroCall}
    (same : call.IsRespelling isTag call')
    (scope : Scope)
    {next next' : String → Script}
    (rest : ∀ message, (next message).Parallel isTag (next' message)) :
    (withMessage call scope next).Parallel isTag (withMessage call' scope next') := by
  unfold withMessage
  rw [same.text, MacroCall.attribute?_congr same.attributes, same.attributes]
  split
  · split <;> exact rest _
  · exact .interpolate _ scope rest

theorem parallel_log
    (level : LogLevel) :
    (log level).Parallel isTag (log level) :=
  ⟨rfl, fun _ _ _ scope same =>
    parallel_withMessage same scope fun _ => .record level _ _ (.finish .nil scope)⟩

theorem parallel_throw :
    throw.Parallel isTag throw :=
  ⟨rfl, fun _ _ _ scope same => parallel_withMessage same scope fun _ => .fail rfl⟩

theorem parallel_addDefaults
    (entry : Attribute)
    (scope : Scope)
    (tags : List String) :
    (tags.foldr (fun tag rest => Script.addDefault tag entry rest) (.finish [] scope)).Parallel
      isTag (tags.foldr (fun tag rest => Script.addDefault tag entry rest) (.finish [] scope)) := by
  induction tags with
  | nil =>
      exact .finish .nil scope
  | cons tag rest inductionHypothesis =>
      exact .addDefault tag entry inductionHypothesis

theorem parallel_style :
    style.Parallel isTag style := by
  refine ⟨rfl, fun sources call call' scope same => ?_⟩
  refine Script.parallel_require same.attributes fun tags => ?_
  refine Script.parallel_require same.attributes fun name => ?_
  refine Script.parallel_require same.attributes fun value => ?_
  exact parallel_addDefaults ⟨name, value⟩ scope (sources.items tags)

theorem parallel_define :
    define.Parallel isTag define := by
  refine ⟨rfl, fun sources call call' scope same => ?_⟩
  refine Script.parallel_require same.attributes fun raw => ?_
  split
  · exact .fail rfl
  · rw [MacroCall.attribute?_congr same.attributes, same.attributes]
    exact Script.parallel_defineAll (UserMacro.parallel_toRule _ _ same.children)
      (.finish .nil scope) _

/-- Every macro of the language acts in parallel on calls that differ in the spelling of names. -/
theorem parallel_of_mem_all :
    ∀ entry ∈ all, entry.2.Parallel isTag entry.2 := by
  simp only [all, List.forall_mem_cons, List.mem_nil_iff, false_implies, implies_true, and_true]
  refine ⟨parallel_condition, parallel_forEach, parallel_forEachNested, parallel_loop,
    parallel_assign, ?calculate, ?invoke, ?argument, ?translation, parallel_template, ?comment,
    ?children, parallel_log .info, parallel_log .debug, parallel_log .error, parallel_throw,
    parallel_style, parallel_define, parallel_whenBound true, parallel_whenBound false⟩
  case comment =>
    exact ⟨rfl, fun _ _ _ scope _ => .finish .nil scope⟩
  case children =>
    exact ⟨rfl, fun _ _ _ scope same =>
      .expand same.children scope fun _ _ left respelled => .finish respelled left⟩
  all_goals
    refine ⟨rfl, fun sources call call' scope same => ?_⟩
  case calculate =>
    simp only [calculate]
    rw [same.attributes]
    exact parallel_calculateAll _ scope
  case invoke =>
    simp only [invoke]
    rw [same.attributes]
    exact parallel_invokeAll _ scope
  case argument =>
    simp only [argument]
    rw [same.attributes]
    exact parallel_bindFrom _ _ _ _ scope
  case translation =>
    simp only [translation]
    rw [same.attributes]
    exact parallel_bindFrom _ _ _ _ scope

end StandardMacro

/-- Macros of the language are found under all spellings of their names, and act in parallel. -/
theorem Vocabulary.parallel_macroRule?_standard
    {name name' : String}
    (same : Text.foldCase name = Text.foldCase name') :
    Option.Rel (MacroRule.Parallel isTag) (standard.macroRule? name)
      (standard.macroRule? name') := by
  rw [show standard.macroRule? name' = standard.macroRule? name from
    (NameTable.find?_congr same standard.macros).symm]
  cases isRule : standard.macroRule? name with
  | none =>
      exact .none
  | some rule =>
      obtain ⟨entry, listed, _, rfl⟩ := exists_of_macroRule?_standard isRule
      exact .some (StandardMacro.parallel_of_mem_all entry listed)

end WidgetMarkup
