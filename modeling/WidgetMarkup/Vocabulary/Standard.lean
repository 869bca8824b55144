import WidgetMarkup.Vocabulary.StandardAttributes
import WidgetMarkup.Vocabulary.StandardMacros

namespace WidgetMarkup

/-!
# The vocabulary of the language

A tag for each kind of widget, tags for listeners, and all attributes and macros.
-/

namespace Vocabulary

/-- The tags of the language with their names. -/
def standardTags : List (List String × TagRule) :=
  WidgetKind.all.map (fun kind => ([kind.name], TagRule.ofKind kind)) ++
    [ (["onClick", "clickListener"], TagRule.ofEvent .click),
      (["onChange", "changeListener"], TagRule.ofEvent .change) ]

/-- The vocabulary without any names. -/
def empty : Vocabulary := {}

/-- The vocabulary of the language. -/
def standard : Vocabulary :=
  let tags := standardTags.foldl
    (fun vocabulary entry => vocabulary.registerTag entry.1 entry.2) empty
  let building := StandardAttribute.building.foldl
    (fun vocabulary entry => vocabulary.registerBuilding entry.1 entry.2) tags
  let targets := StandardAttribute.target.foldl
    (fun vocabulary entry => vocabulary.registerAttribute entry.1 entry.2) building
  let cells := StandardAttribute.cell.foldl
    (fun vocabulary entry => vocabulary.registerCell entry.2 [entry.1]) targets
  StandardMacro.all.foldl
    (fun vocabulary entry => vocabulary.registerMacro entry.1 entry.2) cells

end Vocabulary

end WidgetMarkup
