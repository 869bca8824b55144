import WidgetMarkup.Proofs.Expansion.Moments
import WidgetMarkup.Proofs.Vocabulary.StandardDeclarations

namespace WidgetMarkup

open Markup
open Expansion (Moment)

/-!
# Macros that are defined and called

A tag that defines a macro comes to nothing and leaves the macro behind; a call behind it puts its
content in place of the markers in the body, and goes on with that.
-/

namespace Markup.Node

/-- A tag that defines a macro without parameters under a name. -/
def definition (name : String) (body : List Node) (position : Position) : Node where
  name := "macro"
  isMacro := true
  attributes := [⟨"alias", name⟩]
  children := body
  position := position

/-- A call of a macro without attributes. -/
def call (name : String) (content : List Node) (position : Position) : Node where
  name := name
  isMacro := true
  children := content
  position := position

end Markup.Node

namespace Interpreter

variable {interpreter : Interpreter} {name : String}

/-- What a tag that defines a macro does. -/
theorem script_definition
    (single : interpreter.sources.items name = [name])
    (body : List Node)
    (text : String)
    (path : TagPath)
    (scope : Scope) :
    StandardMacro.define.script interpreter.sources
        ⟨"macro", [⟨"alias", name⟩], body, text, path⟩ scope =
      .define name true (UserMacro.toRule ⟨"content", [], body⟩).script (.finish [] scope) := by
  have isNamed : Text.sameName "alias" "alias" = true := Text.sameName_iff.2 rfl
  have noMarker : Text.sameName "alias" "replace" = false := by decide +kernel
  simp only [StandardMacro.define, MacroCall.require, MacroCall.attribute?, Attribute.lookup?,
    List.find?_cons, List.find?_nil, Attribute.isNamed, isNamed, noMarker, Option.map_some,
    Option.map_none, single, Option.getD_none, StandardMacro.isParameter, List.filter_cons,
    Bool.not_true, Bool.false_and, List.filter_nil]
  rfl

/-- A tag that defines a macro is left out, and the macro is defined after it. -/
theorem expandNode_definition
    (standard : interpreter.vocabulary = .standard)
    (single : interpreter.sources.items name = [name])
    (body : List Node)
    (position : Position)
    (scope : Scope)
    {progress : Progress}
    (unshadowed : progress.macros.find? "macro" = none)
    (shallow : progress.depth < interpreter.settings.maxDepth) :
    ∃ journal,
      interpreter.expandNode (.definition name body position) scope progress =
        .ok ([], scope)
          { progress with
            macros := progress.macros.insert name (UserMacro.toRule ⟨"content", [], body⟩)
            journal } := by
  have listed : (["macro"], StandardMacro.define) ∈ StandardMacro.all := by
    simp [StandardMacro.all]
  have found : interpreter.findMacro? progress "macro" = some StandardMacro.define := by
    rw [findMacro?, unshadowed, standard]
    exact Vocabulary.macroRule?_standard_of_mem listed (by decide +kernel)
  have defines :=
    @Expands.called interpreter 0 (.definition name body position) scope progress _ _ _ _ _ rfl
      found shallow rfl (by
        dsimp only [Node.definition]
        rw [script_definition single]
        exact .step rfl rfl .finished)
  exact ⟨_, defines.perform_eq⟩

/-- Work that is left is charged. -/
theorem charge_of_left
    {progress : Progress}
    (left : progress.charged < interpreter.settings.maxExpansions) :
    interpreter.charge progress = .ok () { progress with charged := progress.charged + 1 } := by
  rw [charge, Expansion.charge_apply, if_neg (by omega)]

/-- Behind the definition of a macro, its call comes next with the macro defined. -/
theorem reaches_call_of_definition
    (standard : interpreter.vocabulary = .standard)
    (single : interpreter.sources.items name = [name])
    (body : List Node)
    (place : Position)
    (call : Node)
    (scope : Scope)
    {progress : Progress}
    (unshadowed : progress.macros.find? "macro" = none)
    (shallow : progress.depth < interpreter.settings.maxDepth)
    (paid : progress.charged + 1 < interpreter.settings.maxExpansions) :
    ∃ between,
      interpreter.Reaches ⟨.forest [.definition name body place, call] scope, progress⟩
          ⟨.node call scope, between⟩ ∧
        between.macros.find? name = some (UserMacro.toRule ⟨"content", [], body⟩) ∧
        between.depth = progress.depth ∧ between.charged = progress.charged + 2 := by
  obtain ⟨journal, defines⟩ :=
    @expandNode_definition interpreter name standard single body place scope
      { progress with charged := progress.charged + 1 } unshadowed shallow
  have first := charge_of_left (Nat.lt_of_succ_lt paid)
  refine ⟨_, .tail (.single (.others first defines)) (.visit (charge_of_left paid)), ?_, rfl, rfl⟩
  rw [NameTable.find?_insert, if_pos (Text.sameName_iff.2 rfl)]

end Interpreter

end WidgetMarkup
