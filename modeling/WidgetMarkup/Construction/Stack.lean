import WidgetMarkup.Construction.Assembly

namespace WidgetMarkup

open Markup

/-!
# Tags worked on by hand

A stack of open tags for callers that open, work on and close tags one step at a time. Finished
tags wait until they are taken in by a tag that is still open. Whatever a step has done stays done
when it fails; a tag that cannot be closed, or cannot be taken in, is dropped.
-/

/-- A tag that is open, with its attributes by what they are given to. -/
structure StackedTag where
  assembly : Assembly
  split : SplitAttributes

/-- The tags that are worked on, and what the run has registered. -/
structure TagStack where
  /-- The open tags, the innermost first. -/
  opened : List StackedTag := []
  /-- The finished tags that wait, the last first. -/
  finished : List ClosedTag := []
  register : Register := {}

/-- Why a step on the stack cannot be done. -/
inductive StackProblem where
  | unknownTag (name : String)
  | nothingOpen
  | nothingFinished
  | failed (problem : LocatedProblem)
deriving Repr

/-- A step on the stack. -/
abbrev Stacking := EStateM StackProblem TagStack

namespace Stacking

/-- Does work that registers ids. -/
def registering (inner : Registration α) : Stacking α :=
  fun stack =>
    match inner stack.register with
    | .ok value register => .ok value { stack with register }
    | .error problem register => .error (.failed problem) { stack with register }

end Stacking

namespace TagStack

/-- The path of the innermost open tag, or else of the document. -/
def path (stack : TagStack) : TagPath :=
  match stack.opened with
  | top :: _ => top.assembly.path
  | [] => .root

/-- The ids of the open tags, the outermost first. -/
def openIds (stack : TagStack) : List String :=
  stack.opened.reverse.filterMap fun tag => tag.assembly.id?

/-- Opens a tag inside the innermost open one. -/
def openTag
    (interpreter : Interpreter)
    (inTable : Bool)
    (name : String)
    (id : Option String)
    (attributes : List Attribute) :
    Stacking Assembly := do
  match interpreter.vocabulary.tag? name with
  | none => throw (.unknownTag name)
  | some rule => do
      let split :=
        SplitAttributes.ofAttributes interpreter.vocabulary rule.features inTable attributes
      let stack ← get
      let assembly ← Stacking.registering (Assembly.start rule (stack.path.child name id))
      modify fun stack => { stack with opened := ⟨assembly, split⟩ :: stack.opened }
      return assembly

/-- Does a step of the work on the innermost open tag. -/
def workOnTop (step : StackedTag → Work Unit) : Stacking Assembly :=
  fun stack =>
    match stack.opened with
    | [] => .error .nothingOpen stack
    | top :: below =>
        let keep (bench : Bench) : TagStack :=
          { stack with
            opened := { top with assembly := bench.assembly } :: below
            register := { stack.register with journal := bench.journal } }
        match step top ⟨top.assembly, stack.register.journal⟩ with
        | .ok _ bench => .ok bench.assembly (keep bench)
        | .error problem bench => .error (.failed problem) (keep bench)

/-- What the cells of tags inside the second innermost open tag start from. -/
def cellDefaults (stack : TagStack) : CellProperties :=
  match stack.opened with
  | _ :: parent :: _ => parent.assembly.childCells?.getD {}
  | _ => {}

/-- Sets up the cell of the innermost open tag. -/
def configureCell : Stacking Assembly := do
  let stack ← get
  workOnTop fun top => Assembly.configureCell stack.cellDefaults top.split.cell

/-- Has the innermost open tag take in the tag that was finished last. -/
def attachLast : Stacking Assembly := do
  let stack ← get
  match stack.opened, stack.finished with
  | [], _ => throw .nothingOpen
  | _, [] => throw .nothingFinished
  | _, child :: others => do
      set { stack with finished := others }
      workOnTop fun _ => Assembly.attach child

/-- Closes the innermost open tag. -/
def closeTop (actions : Actions) : Stacking ClosedTag := do
  let stack ← get
  match stack.opened with
  | [] => throw .nothingOpen
  | top :: below => do
      let rest := { stack with opened := below }
      set rest
      let closed ← Stacking.registering (top.assembly.close rest.openIds actions)
      modify fun stack => { stack with finished := closed :: stack.finished }
      return closed

end TagStack

end WidgetMarkup
