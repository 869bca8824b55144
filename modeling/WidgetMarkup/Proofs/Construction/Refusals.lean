import WidgetMarkup.Proofs.Construction.Leads

namespace WidgetMarkup

open Markup

/-!
# Refusals

All that strictness does is to refuse: the run that refuses unknown names is the run that leaves
them out, up to the first unknown name, and no other problem depends on it.
-/

/-- Whether a problem is that a name means nothing. -/
def Problem.isUnknownName : Problem → Bool
  | .unknownTag _ => true
  | .unknownAttribute _ => true
  | _ => false

/-- Whether one piece of work fails for an unknown name wherever it is not the other one. -/
def Refines {σ α : Type} (strict lenient : EStateM LocatedProblem σ α) : Prop :=
  ∀ before, strict before = lenient before ∨
    ∃ problem after, strict before = .error problem after ∧ problem.problem.isUnknownName = true

namespace Refines

variable {σ α β : Type} {strict lenient : EStateM LocatedProblem σ α}

theorem refl
    (inner : EStateM LocatedProblem σ α) :
    Refines inner inner :=
  fun _ => .inl rfl

theorem bind
    {next next' : α → EStateM LocatedProblem σ β}
    (first : Refines strict lenient)
    (nexts : ∀ value, Refines (next value) (next' value)) :
    Refines (strict >>= next) (lenient >>= next') := by
  intro before
  simp only [Bind.bind, EStateM.bind]
  rcases first before with same | ⟨problem, after, failed, isUnknown⟩
  · rw [same]
    cases lenient before with
    | ok value between =>
        exact nexts value between
    | error problem after =>
        exact .inl rfl
  · rw [failed]
    exact .inr ⟨problem, after, rfl, isUnknown⟩

theorem onAttribute
    {strict lenient : Work α}
    (refines : Refines strict lenient)
    (name : String) :
    Refines (Work.onAttribute name strict) (Work.onAttribute name lenient) := by
  intro bench
  unfold Work.onAttribute
  rcases refines bench with same | ⟨problem, after, failed, isUnknown⟩
  · rw [same]
    exact .inl rfl
  · rw [failed]
    exact .inr ⟨_, after, rfl, isUnknown⟩

theorem work
    {strict lenient : Work Unit}
    (refines : Refines strict lenient)
    (assembly : Assembly) :
    Refines (Registration.work assembly strict) (Registration.work assembly lenient) := by
  intro register
  unfold Registration.work
  rcases refines ⟨assembly, register.journal⟩ with same | ⟨problem, after, failed, isUnknown⟩
  · rw [same]
    exact .inl rfl
  · rw [failed]
    exact .inr ⟨problem, _, rfl, isUnknown⟩

end Refines

namespace Interpreter

/-- The interpreter that treats all unknown names in one way. -/
def withStrictness (interpreter : Interpreter) (strictness : Strictness) : Interpreter :=
  { interpreter with
    settings :=
      { interpreter.settings with unknownAttributes := strictness, unknownTags := strictness } }

variable {interpreter : Interpreter}

@[simp] theorem withStrictness_vocabulary
    (strictness : Strictness) :
    (interpreter.withStrictness strictness).vocabulary = interpreter.vocabulary :=
  rfl

theorem refines_applyAttribute
    (entry : Attribute) :
    Refines (Assembly.applyAttribute (interpreter.withStrictness .fail) entry)
      (Assembly.applyAttribute (interpreter.withStrictness .warn) entry) := by
  refine (Refines.refl _).bind fun target => (Refines.refl _).bind fun bench => ?_
  simp only [withStrictness]
  cases interpreter.vocabulary.resolve target.ancestry entry.name with
  | found rule =>
      exact .refl _
  | unsupported =>
      exact .refl _
  | unknown =>
      exact fun _ => .inr ⟨_, _, rfl, rfl⟩

theorem refines_applyAttributes
    (entries : List Attribute) :
    Refines (Assembly.applyAttributes (interpreter.withStrictness .fail) entries)
      (Assembly.applyAttributes (interpreter.withStrictness .warn) entries) := by
  induction entries with
  | nil =>
      exact .refl _
  | cons first rest inductionHypothesis =>
      exact (refines_applyAttribute first).bind fun _ => inductionHypothesis

theorem refines_beginTag
    (path : TagPath)
    (rule : TagRule)
    (cells : Option CellProperties)
    (node : Node) :
    Refines ((interpreter.withStrictness .fail).beginTag path rule cells node)
      ((interpreter.withStrictness .warn).beginTag path rule cells node) := by
  rw [beginTag_eq, beginTag_eq]
  refine (Refines.refl _).bind fun _ => Refines.work ?_ _
  exact (Refines.refl _).bind fun _ => (Refines.refl _).bind fun _ =>
    (refines_applyAttributes _).bind fun _ => .refl _

theorem refines_admitTag
    (path : TagPath)
    (node : Node) :
    Refines ((interpreter.withStrictness .fail).admitTag path node)
      ((interpreter.withStrictness .warn).admitTag path node) := by
  unfold admitTag
  split
  · exact .refl _
  · simp only [withStrictness]
    cases interpreter.vocabulary.tag? node.name with
    | some rule =>
        exact .refl _
    | none =>
        exact fun _ => .inr ⟨_, _, rfl, rfl⟩

mutual

theorem refines_buildTag
    (parent : TagPath)
    (openIds : List String)
    (cells : Option CellProperties) :
    ∀ node : Node,
      Refines ((interpreter.withStrictness .fail).buildTag parent openIds cells node)
        ((interpreter.withStrictness .warn).buildTag parent openIds cells node)
  | ⟨name, isMacro, attributes, children, text, position⟩ => by
      rw [buildTag_eq, buildTag_eq]
      refine (refines_admitTag _ _).bind fun admitted => ?_
      cases admitted with
      | none =>
          exact .refl _
      | some rule =>
          refine Refines.bind ?_ fun closed => .refl _
          refine (refines_beginTag _ _ _ _).bind fun begun => ?_
          exact (refines_buildChildren _ _ _ begun children).bind fun filled =>
            (Refines.refl _).bind fun finished => .refl _

theorem refines_buildChildren
    (path : TagPath)
    (openIds : List String)
    (cells : Option CellProperties)
    (assembly : Assembly) :
    ∀ nodes : List Node,
      Refines ((interpreter.withStrictness .fail).buildChildren path openIds cells assembly nodes)
        ((interpreter.withStrictness .warn).buildChildren path openIds cells assembly nodes)
  | [] => .refl _
  | node :: rest => by
      rw [buildChildren, buildChildren]
      refine (refines_buildTag path openIds cells node).bind fun built => ?_
      cases built with
      | none =>
          exact refines_buildChildren path openIds cells assembly rest
      | some closed =>
          exact (Refines.refl _).bind fun next =>
            refines_buildChildren path openIds cells next rest

end

theorem refines_buildRoots
    (roots : List Widget)
    (nodes : List Node) :
    Refines ((interpreter.withStrictness .fail).buildRoots roots nodes)
      ((interpreter.withStrictness .warn).buildRoots roots nodes) := by
  induction nodes generalizing roots with
  | nil =>
      exact .refl _
  | cons node rest inductionHypothesis =>
      rw [buildRoots, buildRoots]
      refine (refines_buildTag .root [] none node).bind fun built => ?_
      cases built with
      | none =>
          exact inductionHypothesis roots
      | some closed =>
          dsimp only
          cases placeRoot node closed roots with
          | ok next =>
              exact inductionHypothesis next
          | error problem =>
              exact .refl _

/-- The run that refuses unknown names fails for one, or it is the run that leaves them out. -/
theorem refines_build
    (interpreter : Interpreter)
    (nodes : List Node) :
    Refines ((interpreter.withStrictness .fail).build nodes)
      ((interpreter.withStrictness .warn).build nodes) :=
  (refines_buildRoots [] nodes).bind fun _ => .refl _

end Interpreter

end WidgetMarkup
