namespace WidgetMarkup

/-!
# Scopes

Variables while macros are expanded. A scope sees the bindings of those around it; its own end
with it, so that nothing is bound outwards.
-/

/-- Bindings of one scope, the newest first. -/
abbrev Bindings := List (String × String)

/-- A scope and those around it, the nearest first. -/
structure Scope where
  innermost : Bindings := []
  enclosing : List Bindings := []
deriving Repr, DecidableEq, Inhabited

namespace Scope

/-- The scope of a document, with nothing bound. -/
def empty : Scope := {}

/-- A fresh scope inside. -/
def child (scope : Scope) : Scope :=
  ⟨[], scope.innermost :: scope.enclosing⟩

/-- The scope around, if there is one. -/
def parent? (scope : Scope) : Option Scope :=
  match scope.enclosing with
  | [] => none
  | innermost :: enclosing => some ⟨innermost, enclosing⟩

/-- The scope with a name bound in it. -/
def bind (scope : Scope) (name value : String) : Scope :=
  { scope with innermost := (name, value) :: scope.innermost }

/-- The scope with names bound in it, one after another. -/
def bindAll (scope : Scope) (bindings : List (String × String)) : Scope :=
  bindings.foldl (fun scope binding => scope.bind binding.1 binding.2) scope

/-- What a name is bound to, in the nearest scope that binds it. -/
def get? (scope : Scope) (name : String) : Option String :=
  (scope.innermost :: scope.enclosing).findSome? fun bindings => bindings.lookup name

/-- Whether a name is bound. -/
def isBound (scope : Scope) (name : String) : Bool :=
  (scope.get? name).isSome

/-- A fresh scope inside sees the same bindings. -/
@[simp] theorem get?_child
    (scope : Scope)
    (name : String) :
    scope.child.get? name = scope.get? name := by
  simp [get?, child, List.findSome?]

/-- Binding changes one name and no other. -/
theorem get?_bind
    (scope : Scope)
    (name value other : String) :
    (scope.bind name value).get? other =
      if other = name then some value else scope.get? other := by
  by_cases same : other = name
  · subst same
    simp [get?, bind, List.findSome?]
  · have distinct : (other == name) = false := by simpa using same
    simp [get?, bind, List.findSome?, List.lookup_cons, distinct, same]

end Scope

end WidgetMarkup
