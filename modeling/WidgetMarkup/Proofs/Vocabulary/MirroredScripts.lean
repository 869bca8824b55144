import WidgetMarkup.Proofs.Markup.Remarking
import WidgetMarkup.Proofs.Vocabulary.StandardDeclarations

namespace WidgetMarkup

open Markup

/-!
# Macros do not see marks or places

Two runs may differ in the marks of some macro tags, and in where they are and what they have spent.
The scripts of their macro calls still take the same steps: no macro of the language looks at any of
this, but that `else` and markers for content have to be marked, and that the path of a call is told
to the log.
-/

/-- What two runs may differ in. -/
structure Variation where
  /-- The names whose tags may be marked as macros in one run and not in the other. -/
  marks : String → Prop
  /-- Whether the runs keep in step: equally deep, equally far, on one path and with one log. -/
  inStep : Prop

namespace Markup.Node

/-- The marker for content of the macro that a tag defines, if it is one that defines a macro. -/
def definedMarker? (node : Node) : Option String :=
  if Text.sameName node.name "macro" then
    some ((node.attribute? "replace").getD StandardMacro.defaultMarker)
  else
    none

/-- Whether a forest differs from another one in marks that may vary, and defines no macro whose
marker for content is a name with such marks. -/
structure AreMirrored (variation : Variation) (nodes nodes' : List Node) : Prop where
  remarked : AreRemarkings variation.marks nodes nodes'
  spared :
    ∀ node, IsWithin nodes node → ∀ marker, node.definedMarker? = some marker →
      ∀ name, variation.marks name → Text.sameName name marker = false

namespace AreMirrored

variable {variation : Variation} {nodes nodes' content content' : List Node}

theorem nil :
    AreMirrored variation [] [] :=
  ⟨.nil, fun _ isWithin => absurd isWithin IsWithin.not_nil⟩

theorem of_cons
    {node node' : Node}
    (mirrored : AreMirrored variation (node :: nodes) (node' :: nodes')) :
    IsRemarking variation.marks node node' ∧ AreMirrored variation nodes nodes' := by
  obtain ⟨remarked, spared⟩ := mirrored
  cases remarked with
  | cons first others =>
      exact ⟨first, others, fun node isWithin =>
        spared node (isWithin.mono fun _ => List.mem_cons_of_mem _)⟩

theorem singleton
    {node node' : Node}
    (mirrored : AreMirrored variation (node :: nodes) (node' :: nodes')) :
    AreMirrored variation [node] [node'] := by
  refine ⟨.cons mirrored.of_cons.1 .nil, fun inner isWithin => mirrored.spared inner ?_⟩
  exact isWithin.mono fun _ => (List.mem_singleton.1 · ▸ List.mem_cons_self ..)

/-- What stands inside a tag of a mirrored forest is mirrored. -/
theorem children
    {node node' : Node}
    (mirrored : AreMirrored variation (node :: nodes) (node' :: nodes')) :
    AreMirrored variation node.children node'.children := by
  refine ⟨mirrored.of_cons.1.children, fun inner isWithin => mirrored.spared inner ?_⟩
  exact isWithin.ofChildren (List.mem_cons_self ..)

/-- Some of the nodes of a mirrored forest are mirrored if they are the same ones. -/
theorem of_subset
    {chosen chosen' : List Node}
    (mirrored : AreMirrored variation nodes nodes')
    (subset : ∀ node ∈ chosen, node ∈ nodes)
    (remarked : AreRemarkings variation.marks chosen chosen') :
    AreMirrored variation chosen chosen' :=
  ⟨remarked, fun node isWithin => mirrored.spared node (isWithin.mono subset)⟩

/-- Content and the forest around it are mirrored together if no marker has marks that vary. -/
theorem replaceMarkers
    {marker : String}
    (mirrored : AreMirrored variation nodes nodes')
    (contents : AreMirrored variation content content')
    (remarked :
      AreRemarkings variation.marks (replaceMarkers marker content nodes)
        (replaceMarkers marker content' nodes')) :
    AreMirrored variation (replaceMarkers marker content nodes)
      (replaceMarkers marker content' nodes') := by
  refine ⟨remarked, fun node isWithin => ?_⟩
  rcases IsWithin.of_replaceMarkers marker content isWithin with ⟨own, isOwn, _, rfl⟩ | isContent
  · have sameMarker : (replaceInside marker content own).definedMarker? = own.definedMarker? := by
      cases own
      rfl
    rw [sameMarker]
    exact mirrored.spared own isOwn
  · exact contents.spared node isContent

/-- Where no marks may vary, every forest is mirrored by itself. -/
theorem refl
    (noMarks : ∀ name, ¬variation.marks name)
    (nodes : List Node) :
    AreMirrored variation nodes nodes :=
  ⟨.refl nodes, fun _ _ _ _ name varies => absurd varies (noMarks name)⟩

end AreMirrored

end Markup.Node

open Node (AreMirrored)

variable {variation : Variation}

/-- Whether two macros are ones that documents define, with bodies that are mirrored. -/
inductive MacroRule.Mirrors (variation : Variation) : MacroRule → MacroRule → Prop where
  | ofDocument
      {marker : String}
      {parameters : List Attribute}
      {body body' : List Node}
      (spared : ∀ name, variation.marks name → Text.sameName name marker = false)
      (bodies : AreMirrored variation body body') :
      Mirrors variation (UserMacro.toRule ⟨marker, parameters, body⟩)
        (UserMacro.toRule ⟨marker, parameters, body'⟩)

/-- Whether two calls of a macro are the same but for what is inside, which is mirrored, and for
their paths, unless the runs keep in step. -/
structure MacroCall.Mirrors (variation : Variation) (call call' : MacroCall) : Prop where
  name : call.name = call'.name
  attributes : call.attributes = call'.attributes
  children : AreMirrored variation call.children call'.children
  text : call.text = call'.text
  path : variation.inStep → call.path = call'.path

/-- Whether two scripts take the same steps, on mirrored nodes, and tell the log the same if the
runs keep in step. -/
inductive Script.Mirrors (variation : Variation) : Script → Script → Prop where
  | finish
      (nodes : List Node)
      (scope : Scope) :
      Mirrors variation (.finish nodes scope) (.finish nodes scope)
  | fail
      (problem : Problem) :
      Mirrors variation (.fail problem) (.fail problem)
  | charge
      {next next' : Script}
      (rest : Mirrors variation next next') :
      Mirrors variation (.charge next) (.charge next')
  | expand
      {nodes nodes' : List Node}
      {next next' : List Node → Scope → Script}
      (mirrored : AreMirrored variation nodes nodes')
      (scope : Scope)
      (rest : ∀ expanded left, Mirrors variation (next expanded left) (next' expanded left)) :
      Mirrors variation (.expand nodes scope next) (.expand nodes' scope next')
  | insertTemplate
      {content content' : List Node}
      {next next' : List Node → Script}
      (template marker : String)
      (mirrored : AreMirrored variation content content')
      (scope : Scope)
      (rest : ∀ expanded, Mirrors variation (next expanded) (next' expanded)) :
      Mirrors variation (.insertTemplate template marker content scope next)
        (.insertTemplate template marker content' scope next')
  | interpolate
      {next next' : String → Script}
      (raw : String)
      (scope : Scope)
      (rest : ∀ text, Mirrors variation (next text) (next' text)) :
      Mirrors variation (.interpolate raw scope next) (.interpolate raw scope next')
  | evaluate
      {next next' : Expression.Value → Script}
      (source : String)
      (scope : Scope)
      (rest : ∀ value, Mirrors variation (next value) (next' value)) :
      Mirrors variation (.evaluate source scope next) (.evaluate source scope next')
  | invoke
      {next next' : Option String → Script}
      (reference : String)
      (rest : ∀ answer, Mirrors variation (next answer) (next' answer)) :
      Mirrors variation (.invoke reference next) (.invoke reference next')
  | define
      {rule rule' : MacroRule}
      {next next' : Script}
      (name : String)
      (rules : MacroRule.Mirrors variation rule rule')
      (rest : Mirrors variation next next') :
      Mirrors variation (.define name rule.interpolates rule.script next)
        (.define name rule'.interpolates rule'.script next')
  | addDefault
      {next next' : Script}
      (tag : String)
      (entry : Attribute)
      (rest : Mirrors variation next next') :
      Mirrors variation (.addDefault tag entry next) (.addDefault tag entry next')
  | record
      {text text' : String}
      {next next' : Script}
      (level : LogLevel)
      (told : variation.inStep → text = text')
      (rest : Mirrors variation next next') :
      Mirrors variation (.record level text next) (.record level text' next')

namespace MacroCall.Mirrors

variable {call call' : MacroCall}

theorem attribute?
    (calls : call.Mirrors variation call')
    (name : String) :
    call.attribute? name = call'.attribute? name :=
  congrArg (Attribute.lookup? name) calls.attributes

theorem attributeOrFirst?
    (calls : call.Mirrors variation call')
    (name : String) :
    StandardMacro.attributeOrFirst? call name = StandardMacro.attributeOrFirst? call' name := by
  unfold StandardMacro.attributeOrFirst?
  rw [calls.attribute?, calls.attributes]

/-- A call that must have an attribute goes on with it, or fails in the same words. -/
theorem require
    (calls : call.Mirrors variation call')
    (name : String)
    {next next' : String → Script}
    (rest : ∀ value, (next value).Mirrors variation (next' value)) :
    (call.require name next).Mirrors variation (call'.require name next') := by
  unfold MacroCall.require
  rw [calls.attribute?, calls.name]
  split
  · exact rest _
  · exact .fail _

end MacroCall.Mirrors

namespace Script

/-- Nodes that are mirrored are repeated alike. -/
theorem mirrors_repeatFrom
    {nodes nodes' : List Node}
    (mirrored : AreMirrored variation nodes nodes')
    (scope : Scope)
    (bindings : Nat → List (String × String))
    (remaining index : Nat)
    (expanded : List (List Node)) :
    (repeatFrom nodes scope bindings index expanded remaining).Mirrors variation
      (repeatFrom nodes' scope bindings index expanded remaining) := by
  induction remaining generalizing index expanded with
  | zero =>
      exact .finish _ scope
  | succ remaining inductionHypothesis =>
      exact .charge (.expand mirrored _ fun nodes _ => inductionHypothesis _ _)

theorem mirrors_defineAll
    {rule rule' : MacroRule}
    (rules : rule.Mirrors variation rule')
    {next next' : Script}
    (rest : next.Mirrors variation next')
    (aliases : List String) :
    (defineAll aliases rule next).Mirrors variation (defineAll aliases rule' next') := by
  induction aliases with
  | nil =>
      exact rest
  | cons first others inductionHypothesis =>
      exact .define first rules inductionHypothesis

end Script

theorem UserMacro.mirrors_bindDefaults
    {next next' : Scope → Script}
    (rest : ∀ scope, (next scope).Mirrors variation (next' scope))
    (parameters : List Attribute)
    (scope : Scope) :
    (bindDefaults parameters scope next).Mirrors variation
      (bindDefaults parameters scope next') := by
  induction parameters generalizing scope with
  | nil =>
      exact rest scope
  | cons parameter others inductionHypothesis =>
      exact .interpolate _ scope fun value => inductionHypothesis _

namespace MacroRule.Mirrors

variable {rule rule' : MacroRule}

theorem interpolates
    (rules : rule.Mirrors variation rule') :
    rule.interpolates = true ∧ rule'.interpolates = true := by
  cases rules
  exact ⟨rfl, rfl⟩

/-- Macros of documents with mirrored bodies act alike on mirrored calls. -/
theorem script
    (rules : rule.Mirrors variation rule')
    (sources : Sources)
    {call call' : MacroCall}
    (calls : call.Mirrors variation call')
    (scope : Scope) :
    (rule.script sources call scope).Mirrors variation (rule'.script sources call' scope) := by
  cases rules with
  | ofDocument spared bodies =>
      refine UserMacro.mirrors_bindDefaults (fun inner => ?_) _ scope.child
      dsimp only
      rw [calls.attributes]
      refine .expand ?_ _ fun nodes _ => .finish nodes scope
      exact bodies.replaceMarkers calls.children
        (calls.children.remarked.replaceMarkers spared (fun _ => id) bodies.remarked)

end MacroRule.Mirrors

namespace StandardMacro

/-- The branches of a condition are nodes inside it. -/
theorem mem_of_mem_splitAtElse
    {nodes : List Node}
    {node : Node}
    (member : node ∈ (splitAtElse nodes).1 ∨ node ∈ (splitAtElse nodes).2) :
    node ∈ nodes := by
  induction nodes with
  | nil =>
      simp [splitAtElse] at member
  | cons first rest inductionHypothesis =>
      rw [splitAtElse] at member
      split at member
      · simp only [List.not_mem_nil, false_or] at member
        exact .tail _ member
      · rcases member with member | member
        · rcases List.mem_cons.1 member with rfl | member
          · exact List.mem_cons_self ..
          · exact .tail _ (inductionHypothesis (.inl member))
        · exact .tail _ (inductionHypothesis (.inr member))

/-- The branches of a condition are split at the same place, if the name that separates them has no
marks that vary. -/
theorem remarked_splitAtElse
    {free : String → Prop}
    (noElse : ∀ name, free name → Text.sameName name elseName = false)
    {nodes nodes' : List Node}
    (remarked : Node.AreRemarkings free nodes nodes') :
    Node.AreRemarkings free (splitAtElse nodes).1 (splitAtElse nodes').1 ∧
      Node.AreRemarkings free (splitAtElse nodes).2 (splitAtElse nodes').2 := by
  induction nodes generalizing nodes' with
  | nil =>
      cases remarked
      exact ⟨.nil, .nil⟩
  | cons node rest inductionHypothesis =>
      cases remarked with
      | cons first others =>
          rw [splitAtElse, splitAtElse, first.isMarkerNamed noElse]
          split
          · exact ⟨.nil, others⟩
          · obtain ⟨before, after⟩ := inductionHypothesis others
            exact ⟨.cons first before, after⟩

section Rules

/-- Whether a macro takes the same steps on calls that are mirrored. -/
def MirrorsItself (variation : Variation) (rule : MacroRule) : Prop :=
  ∀ sources call call' scope,
    MacroCall.Mirrors variation call call' →
      (rule.script sources call scope).Mirrors variation (rule.script sources call' scope)

theorem mirrors_condition
    (noElse : ∀ name, variation.marks name → Text.sameName name elseName = false) :
    MirrorsItself variation condition := by
  intro sources call call' scope calls
  simp only [condition]
  rw [calls.attributeOrFirst?, calls.name]
  split
  · exact .fail _
  · obtain ⟨holding, otherwise⟩ := remarked_splitAtElse noElse calls.children.remarked
    refine .evaluate _ scope fun value => .expand ?_ scope fun nodes left => .finish nodes left
    split
    · exact calls.children.of_subset (fun _ member => mem_of_mem_splitAtElse (.inl member)) holding
    · exact calls.children.of_subset (fun _ member => mem_of_mem_splitAtElse (.inr member))
        otherwise

theorem mirrors_whenBound
    (all : Bool) :
    MirrorsItself variation (whenBound all) := by
  intro sources call call' scope calls
  simp only [whenBound]
  rw [calls.attributes]
  generalize (if all = true then _ else _ : Bool) = holds
  split
  · exact .expand calls.children scope fun nodes left => .finish nodes left
  · exact .finish [] scope

theorem mirrors_forEach :
    MirrorsItself variation forEach := by
  intro sources call call' scope calls
  simp only [forEach, listsOf]
  rw [calls.attributes]
  split
  · exact .fail _
  · split
    · exact .fail _
    · exact Script.mirrors_repeatFrom calls.children scope _ _ 0 []

theorem mirrors_forEachNested :
    MirrorsItself variation forEachNested := by
  intro sources call call' scope calls
  simp only [forEachNested, listsOf]
  rw [calls.attributes, calls.name]
  split
  · exact .fail _
  · exact Script.mirrors_repeatFrom calls.children scope _ _ 0 []

theorem mirrors_loop :
    MirrorsItself variation loop := by
  intro sources call call' scope calls
  simp only [loop]
  rw [calls.attributeOrFirst?, calls.attribute?]
  split
  · exact .fail _
  · split
    · exact .fail _
    · exact Script.mirrors_repeatFrom calls.children scope _ _ 0 []

theorem mirrors_calculateAll
    (attributes : List Attribute)
    (scope : Scope) :
    (calculateAll attributes scope).Mirrors variation (calculateAll attributes scope) := by
  induction attributes generalizing scope with
  | nil =>
      exact .finish [] scope
  | cons entry rest inductionHypothesis =>
      exact .evaluate _ scope fun value => inductionHypothesis _

theorem mirrors_invokeAll
    (attributes : List Attribute)
    (scope : Scope) :
    (invokeAll attributes scope).Mirrors variation (invokeAll attributes scope) := by
  induction attributes generalizing scope with
  | nil =>
      exact .finish [] scope
  | cons entry rest inductionHypothesis =>
      refine .invoke _ fun answer => ?_
      cases answer <;> exact inductionHypothesis _

/-- Paths are told to the log and to nothing else. -/
theorem mirrors_bindFrom
    (source : Scope → String → Option String)
    {path path' : TagPath}
    (paths : variation.inStep → path = path')
    (attributes : List Attribute)
    (scope : Scope) :
    (bindFrom source path attributes scope).Mirrors variation
      (bindFrom source path' attributes scope) := by
  induction attributes generalizing scope with
  | nil =>
      exact .finish [] scope
  | cons entry rest inductionHypothesis =>
      rw [bindFrom, bindFrom]
      split
      · exact inductionHypothesis _
      · exact .record _ (fun inStep => by rw [paths inStep]) (inductionHypothesis _)

theorem mirrors_template :
    MirrorsItself variation template := by
  intro sources call call' scope calls
  refine calls.require "path" fun path => ?_
  rw [calls.attribute?]
  exact .insertTemplate path _ calls.children scope fun nodes => .finish nodes scope

theorem mirrors_withMessage
    {call call' : MacroCall}
    (calls : call.Mirrors variation call')
    (scope : Scope)
    {next next' : String → Script}
    (rest : ∀ message, (next message).Mirrors variation (next' message)) :
    (withMessage call scope next).Mirrors variation (withMessage call' scope next') := by
  unfold withMessage
  rw [calls.text, calls.attribute?, calls.attributes]
  split
  · split <;> exact rest _
  · exact .interpolate _ scope rest

theorem mirrors_log
    (level : LogLevel) :
    MirrorsItself variation (log level) :=
  fun _ _ _ scope calls => mirrors_withMessage calls scope fun _ =>
    .record level (fun inStep => by rw [calls.path inStep]) (.finish [] scope)

theorem mirrors_throw :
    MirrorsItself variation throw :=
  fun _ _ _ scope calls => mirrors_withMessage calls scope fun _ => .fail _

theorem mirrors_style :
    MirrorsItself variation style := by
  intro sources call call' scope calls
  refine calls.require "tag" fun tags => calls.require "name" fun name =>
    calls.require "value" fun value => ?_
  induction sources.items tags with
  | nil =>
      exact .finish [] scope
  | cons tag rest inductionHypothesis =>
      exact .addDefault tag _ inductionHypothesis

/-- The marker for content of a macro that a call defines. -/
def definedMarker (call : MacroCall) : String :=
  (call.attribute? "replace").getD defaultMarker

/-- A definition is mirrored if its marker has no marks that vary. -/
theorem mirrors_define
    (sources : Sources)
    {call call' : MacroCall}
    (scope : Scope)
    (calls : call.Mirrors variation call')
    (spared : ∀ name, variation.marks name → Text.sameName name (definedMarker call) = false) :
    (define.script sources call scope).Mirrors variation (define.script sources call' scope) := by
  refine calls.require "alias" fun raw => ?_
  split
  · exact .fail _
  · unfold definedMarker at spared
    rw [calls.attribute?] at spared ⊢
    rw [calls.attributes]
    exact Script.mirrors_defineAll (.ofDocument spared calls.children) (.finish [] scope) _

/-- Every macro of the language but the one that defines macros takes the same steps on calls that
are mirrored. -/
theorem mirrors_of_mem_all
    (noElse : ∀ name, variation.marks name → Text.sameName name elseName = false) :
    ∀ entry ∈ all, entry = (["macro"], define) ∨ MirrorsItself variation entry.2 := by
  simp only [all, List.forall_mem_cons, List.mem_nil_iff, false_implies, implies_true, and_true]
  refine ⟨.inr (mirrors_condition noElse), .inr mirrors_forEach, .inr mirrors_forEachNested,
    .inr mirrors_loop, .inr ?assign, .inr ?calculate, .inr ?invoke, .inr ?argument,
    .inr ?translation, .inr mirrors_template, .inr ?comment, .inr ?children,
    .inr (mirrors_log .info), .inr (mirrors_log .debug), .inr (mirrors_log .error),
    .inr mirrors_throw, .inr mirrors_style, .inl trivial, .inr (mirrors_whenBound true),
    .inr (mirrors_whenBound false)⟩
  case comment =>
    exact fun _ _ _ scope _ => .finish [] scope
  case children =>
    exact fun _ _ _ scope calls =>
      .expand calls.children scope fun nodes left => .finish nodes left
  all_goals
    intro sources call call' scope calls
  case assign =>
    simp only [assign]
    rw [calls.attributes]
    exact .finish [] _
  case calculate =>
    simp only [calculate]
    rw [calls.attributes]
    exact mirrors_calculateAll _ scope
  case invoke =>
    simp only [invoke]
    rw [calls.attributes]
    exact mirrors_invokeAll _ scope
  case argument =>
    simp only [argument]
    rw [calls.attributes]
    exact mirrors_bindFrom _ calls.path _ scope
  case translation =>
    simp only [translation]
    rw [calls.attributes]
    exact mirrors_bindFrom _ calls.path _ scope

end Rules

end StandardMacro

end WidgetMarkup
