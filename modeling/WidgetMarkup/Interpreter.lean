import WidgetMarkup.Vocabulary.Registry

namespace WidgetMarkup

open Markup

/-!
# Interpreters

An interpreter holds all that a run depends on besides the document: the vocabulary, the settings
and what documents may ask for by name. Runs do not change it.
-/

/-- What to do with a name that means nothing. -/
inductive Strictness where
  /-- The document is refused. -/
  | fail
  /-- The tag or attribute is left out with a warning. -/
  | warn
deriving Repr, DecidableEq, Inhabited

/-- The settings of an interpreter. -/
structure Settings where
  unknownAttributes : Strictness := .fail
  unknownTags : Strictness := .fail
  /-- How deep macro calls may be nested. -/
  maxDepth : Nat := 64
  /-- How many nodes and repetitions the expansion of a document may visit. -/
  maxExpansions : Nat := 10000
  /-- The separator of lists. -/
  separator : Char := ';'
  /-- The character that marks macro tags. -/
  marker : Char := ':'
deriving Repr, DecidableEq, Inhabited

namespace Settings

/-- The settings that leave out what is unknown. -/
def lenient : Settings :=
  { unknownAttributes := .warn, unknownTags := .warn }

end Settings

/-- Texts by name, from wherever they come. -/
abbrev TextSource := String → Option String

namespace TextSource

/-- The source without any text. -/
def none : TextSource :=
  fun _ => Option.none

/-- The source of a list of pairs, the first pair of a name counting. -/
def ofPairs (pairs : List (String × String)) : TextSource :=
  fun name => pairs.lookup name

/-- A source that falls back on another. -/
def orElse (first second : TextSource) : TextSource :=
  fun name =>
    match first name with
    | some text => some text
    | Option.none => second name

end TextSource

/-- Attributes that tags of a name get unless they have them. -/
structure StyleSheet where
  defaults : NameTable (List Attribute) := {}

namespace StyleSheet

/-- The attributes with one more, in place of the one of its name, if there is one. -/
def placeDefault (entry : Attribute) (defaults : Option (List Attribute)) : List Attribute :=
  placeRule (fun old => old.isNamed entry.name) entry (defaults.getD [])

/-- The sheet with a default for a tag. -/
def add (sheet : StyleSheet) (tag : String) (entry : Attribute) : StyleSheet :=
  ⟨sheet.defaults.update tag (placeDefault entry)⟩

/-- The defaults of a tag. -/
def defaultsOf (sheet : StyleSheet) (tag : String) : List Attribute :=
  (sheet.defaults.find? tag).getD []

/-- The attributes of a tag with the defaults that it lacks behind its own. -/
def complete (sheet : StyleSheet) (tag : String) (attributes : List Attribute) : List Attribute :=
  (sheet.defaultsOf tag).foldl
    (fun complete entry =>
      if Attribute.isPresent entry.name complete then complete else complete ++ [entry])
    attributes

end StyleSheet

/-- All that a run depends on besides the document. -/
structure Interpreter where
  vocabulary : Vocabulary
  settings : Settings := {}
  arguments : TextSource := .none
  translations : TextSource := .none
  templates : TextSource := .none
  actions : Actions := {}
  styles : StyleSheet := {}

namespace Interpreter

/-- What scripts may ask for by name. -/
def sources (interpreter : Interpreter) : Sources where
  argument := interpreter.arguments
  translation := interpreter.translations
  separator := interpreter.settings.separator

end Interpreter

end WidgetMarkup
