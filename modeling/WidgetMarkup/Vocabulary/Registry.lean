import WidgetMarkup.Expansion.Script
import WidgetMarkup.NameTable
import WidgetMarkup.Vocabulary.Rule

namespace WidgetMarkup

/-!
# Vocabularies

What the names of a language mean. Tags, macros and cell attributes have one rule for each name.
Attributes for blueprints have one for each name and feature, and attributes of finished targets
one for each name and key, so that a name may mean different things for different targets. A
later registration replaces an earlier one in the same place and touches no other.
-/

/-- The rules of a language under their names. -/
structure Vocabulary where
  tags : NameTable TagRule := {}
  macros : NameTable MacroRule := {}
  building : NameTable (List BuildingRule) := {}
  attributes : NameTable (List AttributeRule) := {}
  cells : NameTable CellRule := {}

/-- The names of a cell attribute: on a cell, and on a table for what its new cells start from. -/
structure CellAlias where
  cell : String
  default : Option String
deriving Repr, DecidableEq, Inhabited

namespace CellAlias

/-- The name on a table that is derived from the name on a cell: `pad` gives `defaultPad`. -/
def defaultName (cell : String) : String :=
  match cell.toList with
  | [] => "default"
  | first :: rest => "default" ++ String.ofList (first.toUpper :: rest)

/-- A cell attribute with a derived name on tables. -/
def derived (cell : String) : CellAlias :=
  ⟨cell, some (defaultName cell)⟩

/-- A cell attribute without a name on tables. -/
def cellOnly (cell : String) : CellAlias :=
  ⟨cell, none⟩

end CellAlias

/-- What is known of an attribute for a target. -/
inductive Resolution where
  | found (rule : AttributeRule)
  /-- The name is known, but not for anything that the target is. -/
  | unsupported
  | unknown

/-- The rules with one more, in place of the one that has its place, if there is one. -/
def placeRule (samePlace : α → Bool) (rule : α) : List α → List α
  | [] => [rule]
  | first :: rest =>
      if samePlace first then rule :: rest else first :: placeRule samePlace rule rest

namespace Vocabulary

/-- The vocabulary with a rule for tags of the given names. -/
def registerTag (vocabulary : Vocabulary) (names : List String) (rule : TagRule) : Vocabulary :=
  { vocabulary with tags := vocabulary.tags.insertAll names rule }

/-- The vocabulary with a macro under the given names. -/
def registerMacro
    (vocabulary : Vocabulary)
    (names : List String)
    (rule : MacroRule) :
    Vocabulary :=
  { vocabulary with macros := vocabulary.macros.insertAll names rule }

/-- The vocabulary with a rule for an attribute of finished targets. -/
def registerAttribute
    (vocabulary : Vocabulary)
    (names : List String)
    (rule : AttributeRule) :
    Vocabulary :=
  let place (rules : Option (List AttributeRule)) : List AttributeRule :=
    placeRule (fun old => old.key == rule.key) rule (rules.getD [])
  { vocabulary with
    attributes := names.foldl (fun table name => table.update name place) vocabulary.attributes }

/-- The vocabulary with a rule for an attribute of blueprints. -/
def registerBuilding
    (vocabulary : Vocabulary)
    (names : List String)
    (rule : BuildingRule) :
    Vocabulary :=
  let place (rules : Option (List BuildingRule)) : List BuildingRule :=
    placeRule (fun old => old.feature == rule.feature) rule (rules.getD [])
  { vocabulary with
    building := names.foldl (fun table name => table.update name place) vocabulary.building }

/-- The vocabulary with a rule for a cell attribute, and its twin for the defaults of tables. -/
def registerCell
    (vocabulary : Vocabulary)
    (rule : CellRule)
    (aliases : List CellAlias) :
    Vocabulary :=
  aliases.foldl
    (fun vocabulary names =>
      let vocabulary :=
        { vocabulary with cells := vocabulary.cells.insert names.cell rule }
      match names.default with
      | some default => vocabulary.registerAttribute [default] (.cellDefaults rule)
      | none => vocabulary)
    vocabulary

/-- The rule for tags of a name. -/
def tag? (vocabulary : Vocabulary) (name : String) : Option TagRule :=
  vocabulary.tags.find? name

/-- The macro of a name. -/
def macroRule? (vocabulary : Vocabulary) (name : String) : Option MacroRule :=
  vocabulary.macros.find? name

/-- The rule for an attribute of blueprints under the first of the features that has one. -/
def building?
    (vocabulary : Vocabulary)
    (name : String)
    (features : List Feature) :
    Option BuildingRule :=
  let rules := (vocabulary.building.find? name).getD []
  features.findSome? fun feature => rules.find? fun rule => rule.feature == feature

/-- The rule for a cell attribute. -/
def cell? (vocabulary : Vocabulary) (name : String) : Option CellRule :=
  vocabulary.cells.find? name

/-- The rule for an attribute under the first of the keys that has one. -/
def resolve (vocabulary : Vocabulary) (ancestry : List TargetKey) (name : String) : Resolution :=
  match vocabulary.attributes.find? name with
  | some rules =>
      match ancestry.findSome? fun key => rules.find? fun rule => rule.key == key with
      | some rule => .found rule
      | none => .unsupported
  | none =>
      if vocabulary.building.contains name || vocabulary.cells.contains name then
        .unsupported
      else
        .unknown

end Vocabulary

/-- The attributes of a tag by what they are given to, each group in the order of the source. -/
structure SplitAttributes where
  building : List (BuildingRule × Markup.Attribute) := []
  cell : List (CellRule × Markup.Attribute) := []
  target : List Markup.Attribute := []

namespace SplitAttributes

/--
Splits the attributes of a tag: those for its blueprint first, then, inside a table, those for its
cell, and all others for the target.
-/
def ofAttributes
    (vocabulary : Vocabulary)
    (features : List Feature)
    (inTable : Bool) :
    List Markup.Attribute →
    SplitAttributes
  | [] => {}
  | entry :: rest =>
      let split := ofAttributes vocabulary features inTable rest
      match vocabulary.building? entry.name features with
      | some rule => { split with building := (rule, entry) :: split.building }
      | none =>
          match if inTable then vocabulary.cell? entry.name else none with
          | some rule => { split with cell := (rule, entry) :: split.cell }
          | none => { split with target := entry :: split.target }

end SplitAttributes

end WidgetMarkup
