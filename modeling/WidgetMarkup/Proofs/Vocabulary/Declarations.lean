import WidgetMarkup.Proofs.Construction.Pruning
import WidgetMarkup.Vocabulary.Standard

namespace WidgetMarkup

/-!
# Vocabularies as declarations one after another

A vocabulary that was made by registrations answers as the last registration that says something
about what is asked, for tags, macros and cells by their names, for attributes by their names and
what they are for. A registration leaves every answer alone of which it says nothing, except that
the name of an attribute is not unknown any more to targets that it is not for.
-/

/-- One registration: a rule and the names that it is given. -/
inductive Declaration where
  | tag (names : List String) (rule : TagRule)
  | macroRule (names : List String) (rule : MacroRule)
  | building (names : List String) (rule : BuildingRule)
  | target (names : List String) (rule : AttributeRule)
  | cell (rule : CellRule) (aliases : List CellAlias)

namespace Declaration

/-- Whether a name is among others, up to case. -/
def lists (names : List String) (name : String) : Bool :=
  names.any fun other => Text.sameName other name

/-- The names on cells among the names of a cell attribute. -/
def cellNames (aliases : List CellAlias) : List String :=
  aliases.map CellAlias.cell

/-- The names on tables among the names of a cell attribute. -/
def defaultNames (aliases : List CellAlias) : List String :=
  aliases.filterMap CellAlias.default

/-- What a declaration says of the tags of a name. -/
def tag? (name : String) : Declaration → Option TagRule
  | .tag names rule => if lists names name then some rule else none
  | _ => none

/-- What a declaration says of the macros of a name. -/
def macroRule? (name : String) : Declaration → Option MacroRule
  | .macroRule names rule => if lists names name then some rule else none
  | _ => none

/-- What a declaration says of a cell attribute. -/
def cell? (name : String) : Declaration → Option CellRule
  | .cell rule aliases => if lists (cellNames aliases) name then some rule else none
  | _ => none

/-- What a declaration says of an attribute of blueprints under a feature. -/
def building? (name : String) (feature : Feature) : Declaration → Option BuildingRule
  | .building names rule =>
      if lists names name && rule.feature == feature then some rule else none
  | _ => none

/-- What a declaration says of an attribute for a key; the names of a cell attribute on tables
are for tables. -/
def attribute? (name : String) (key : TargetKey) : Declaration → Option AttributeRule
  | .target names rule => if lists names name && rule.key == key then some rule else none
  | .cell rule aliases =>
      if lists (defaultNames aliases) name && TargetKey.kind .table == key then
        some (.cellDefaults rule)
      else
        none
  | _ => none

/-- Whether a declaration gives the name to an attribute of whatever sort. -/
def namesAttribute (name : String) : Declaration → Bool
  | .target names _ => lists names name
  | .building names _ => lists names name
  | .cell _ aliases => lists (cellNames aliases) name || lists (defaultNames aliases) name
  | _ => false

/-- What the last of the declarations says that say something. -/
def last {α : Type} (tells : Declaration → Option α) (declarations : List Declaration) : Option α :=
  declarations.reverse.findSome? tells

/-- The first of several declarations counts if the others say nothing. -/
theorem last_cons
    {α : Type}
    (tells : Declaration → Option α)
    (first : Declaration)
    (rest : List Declaration) :
    last tells (first :: rest) = (last tells rest).or (tells first) := by
  unfold last
  rw [List.reverse_cons, List.findSome?_append, List.findSome?_singleton]

/-- What is said last is said by one of the declarations. -/
theorem exists_of_last
    {α : Type}
    {tells : Declaration → Option α}
    {declarations : List Declaration}
    {answer : α}
    (isLast : last tells declarations = some answer) :
    ∃ declaration ∈ declarations, tells declaration = some answer := by
  obtain ⟨declaration, member, spoken⟩ := List.exists_of_findSome?_eq_some isLast
  exact ⟨declaration, List.mem_reverse.1 member, spoken⟩

end Declaration

namespace NameTable

variable {α : Type}

/-- An entry written under several names is found under each of them. -/
theorem find?_insertAll
    (table : NameTable α)
    (names : List String)
    (name : String)
    (entry : α) :
    (table.insertAll names entry).find? name =
      if Declaration.lists names name then some entry else table.find? name := by
  unfold insertAll Declaration.lists
  induction names generalizing table with
  | nil =>
      rfl
  | cons first rest inductionHypothesis =>
      rw [List.foldl_cons, inductionHypothesis, find?_insert, List.any_cons]
      cases Text.sameName first name <;> cases rest.any _ <;> rfl

/-- Exactly the names that were written and those from before are in a table. -/
theorem contains_insertAll
    (table : NameTable α)
    (names : List String)
    (name : String)
    (entry : α) :
    (table.insertAll names entry).contains name =
      (Declaration.lists names name || table.contains name) := by
  unfold contains
  rw [find?_insertAll]
  cases Declaration.lists names name <;> rfl

/-- Several names that were written are in the table, and all that were in it before. -/
theorem contains_foldl_update
    (table : NameTable α)
    (change : Option α → α)
    (names : List String)
    (name : String) :
    (names.foldl (fun table name => table.update name change) table).contains name =
      (Declaration.lists names name || table.contains name) := by
  unfold Declaration.lists
  induction names generalizing table with
  | nil =>
      rfl
  | cons first rest inductionHypothesis =>
      rw [List.foldl_cons, inductionHypothesis, List.any_cons]
      unfold contains update
      rw [find?_insert]
      cases Text.sameName first name <;> cases rest.any _ <;> rfl

section Slots

variable {κ : Type} [BEq κ] [LawfulBEq κ]

/-- The rule for a place among the rules of a name. -/
def slot? (place : α → κ) (table : NameTable (List α)) (name : String) (key : κ) : Option α :=
  ((table.find? name).getD []).find? fun rule => place rule == key

/-- A rule takes its place among others and no other place. -/
theorem find?_placeRule
    (place : α → κ)
    (rule : α)
    (rules : List α)
    (key : κ) :
    (placeRule (fun old => place old == place rule) rule rules).find?
        (fun rule => place rule == key) =
      if place rule == key then some rule else rules.find? fun rule => place rule == key := by
  induction rules with
  | nil =>
      rw [placeRule, List.find?_cons]
      cases place rule == key <;> rfl
  | cons first rest inductionHypothesis =>
      rw [placeRule]
      split
      · rename_i same
        rw [List.find?_cons, List.find?_cons, beq_iff_eq.1 same]
        cases place rule == key <;> rfl
      · rename_i different
        rw [List.find?_cons, inductionHypothesis, List.find?_cons]
        cases isFirst : place first == key with
        | false =>
            rfl
        | true =>
            have isOther : ¬ (place rule == key) = true := by
              intro isRule
              exact different (by rw [beq_iff_eq.1 isFirst, beq_iff_eq.1 isRule, beq_self_eq_true])
            rw [if_neg isOther, if_neg isOther]

/-- A rule placed under several names is found under each of them in its place. -/
theorem slot?_foldl_update
    (place : α → κ)
    (rule : α)
    (table : NameTable (List α))
    (names : List String)
    (name : String)
    (key : κ) :
    slot? place
        (names.foldl
          (fun table name =>
            table.update name fun rules =>
              placeRule (fun old => place old == place rule) rule (rules.getD []))
          table)
        name key =
      if Declaration.lists names name && place rule == key then
        some rule
      else
        slot? place table name key := by
  unfold Declaration.lists
  induction names generalizing table with
  | nil =>
      rfl
  | cons first rest inductionHypothesis =>
      rw [List.foldl_cons, inductionHypothesis, List.any_cons]
      unfold slot? update
      rw [find?_insert]
      cases same : Text.sameName first name with
      | false =>
          rfl
      | true =>
          have sameEntry : table.find? first = table.find? name := by
            unfold find?
            rw [Text.sameName_iff.1 same]
          rw [if_pos rfl, Option.getD_some, find?_placeRule, sameEntry]
          cases rest.any _ <;> cases place rule == key <;> rfl

end Slots

end NameTable

/-- A search along a list finds the same with two questions that agree on its members. -/
theorem findSome?_congr
    {α β : Type}
    {ask other : α → Option β}
    {members : List α}
    (agree : ∀ member ∈ members, ask member = other member) :
    members.findSome? ask = members.findSome? other := by
  induction members with
  | nil =>
      rfl
  | cons first rest inductionHypothesis =>
      rw [List.forall_mem_cons] at agree
      rw [List.findSome?_cons, List.findSome?_cons, agree.1, inductionHypothesis agree.2]

namespace Vocabulary

/-- The rule for an attribute of blueprints under a feature. -/
def buildingFor? (vocabulary : Vocabulary) (name : String) (feature : Feature) :
    Option BuildingRule :=
  vocabulary.building.slot? BuildingRule.feature name feature

/-- The rule for an attribute of targets under a key. -/
def attributeFor? (vocabulary : Vocabulary) (name : String) (key : TargetKey) :
    Option AttributeRule :=
  vocabulary.attributes.slot? AttributeRule.key name key

/-- The vocabulary with one more registration. -/
def declare (vocabulary : Vocabulary) : Declaration → Vocabulary
  | .tag names rule => vocabulary.registerTag names rule
  | .macroRule names rule => vocabulary.registerMacro names rule
  | .building names rule => vocabulary.registerBuilding names rule
  | .target names rule => vocabulary.registerAttribute names rule
  | .cell rule aliases => vocabulary.registerCell rule aliases

/-- The vocabulary of registrations one after another. -/
def ofDeclarations (declarations : List Declaration) : Vocabulary :=
  declarations.foldl declare empty

section Lookups

variable (vocabulary : Vocabulary) (name : String)

theorem building?_eq
    (features : List Feature) :
    vocabulary.building? name features = features.findSome? (vocabulary.buildingFor? name) :=
  rfl

/-- An attribute is resolved to the rule for the first of the keys that has one. -/
theorem resolve_eq
    (ancestry : List TargetKey) :
    vocabulary.resolve ancestry name =
      match ancestry.findSome? (vocabulary.attributeFor? name) with
      | some rule => .found rule
      | none => if vocabulary.knowsAttribute name then .unsupported else .unknown := by
  have known : vocabulary.knowsAttribute name =
      ((vocabulary.attributes.find? name).isSome || vocabulary.building.contains name ||
        vocabulary.cells.contains name) :=
    rfl
  have slots (key : TargetKey) : vocabulary.attributeFor? name key =
      ((vocabulary.attributes.find? name).getD []).find? fun rule => rule.key == key :=
    rfl
  unfold resolve
  simp only [known, funext slots]
  cases vocabulary.attributes.find? name with
  | some rules =>
      rfl
  | none =>
      have nothing : (ancestry.findSome? fun _ => (none : Option AttributeRule)) = none :=
        List.findSome?_eq_none_iff.2 fun _ _ => rfl
      simp only [Option.getD_none, List.find?_nil, nothing, Option.isSome_none, Bool.false_or]

end Lookups

/-- A cell attribute is registered under its names on cells and its names on tables. -/
theorem registerCell_eq
    (vocabulary : Vocabulary)
    (rule : CellRule)
    (aliases : List CellAlias) :
    vocabulary.registerCell rule aliases =
      { vocabulary.registerAttribute (Declaration.defaultNames aliases) (.cellDefaults rule) with
        cells := vocabulary.cells.insertAll (Declaration.cellNames aliases) rule } := by
  unfold registerCell
  induction aliases generalizing vocabulary with
  | nil =>
      rfl
  | cons first rest inductionHypothesis =>
      rw [List.foldl_cons, inductionHypothesis]
      obtain ⟨cell, _ | default⟩ := first <;> rfl

section Steps

variable (vocabulary : Vocabulary) (declaration : Declaration) (name : String)

/-- A declaration answers for the tags that it names, and the vocabulary for all others. -/
theorem tag?_declare :
    (vocabulary.declare declaration).tag? name =
      (declaration.tag? name).or (vocabulary.tag? name) := by
  cases declaration with
  | tag names rule =>
      change (vocabulary.tags.insertAll names rule).find? name = _
      rw [NameTable.find?_insertAll, Declaration.tag?]
      split <;> rfl
  | cell rule aliases =>
      rw [declare, registerCell_eq]
      rfl
  | macroRule | building | target =>
      rfl

theorem macroRule?_declare :
    (vocabulary.declare declaration).macroRule? name =
      (declaration.macroRule? name).or (vocabulary.macroRule? name) := by
  cases declaration with
  | macroRule names rule =>
      change (vocabulary.macros.insertAll names rule).find? name = _
      rw [NameTable.find?_insertAll, Declaration.macroRule?]
      split <;> rfl
  | cell rule aliases =>
      rw [declare, registerCell_eq]
      rfl
  | tag | building | target =>
      rfl

theorem cell?_declare :
    (vocabulary.declare declaration).cell? name =
      (declaration.cell? name).or (vocabulary.cell? name) := by
  cases declaration with
  | cell rule aliases =>
      rw [declare, registerCell_eq]
      change (vocabulary.cells.insertAll (Declaration.cellNames aliases) rule).find? name = _
      rw [NameTable.find?_insertAll, Declaration.cell?]
      split <;> rfl
  | tag | macroRule | building | target =>
      rfl

theorem buildingFor?_declare
    (feature : Feature) :
    (vocabulary.declare declaration).buildingFor? name feature =
      (declaration.building? name feature).or (vocabulary.buildingFor? name feature) := by
  cases declaration with
  | building names rule =>
      refine (NameTable.slot?_foldl_update BuildingRule.feature rule _ names name feature).trans ?_
      rw [Declaration.building?]
      split <;> rfl
  | cell rule aliases =>
      rw [declare, registerCell_eq]
      rfl
  | tag | macroRule | target =>
      rfl

/-- A declaration answers for the attributes that it names for a key, those that it names for
tables included, and the vocabulary for all others. -/
theorem attributeFor?_declare
    (key : TargetKey) :
    (vocabulary.declare declaration).attributeFor? name key =
      (declaration.attribute? name key).or (vocabulary.attributeFor? name key) := by
  cases declaration with
  | target names rule =>
      refine (NameTable.slot?_foldl_update AttributeRule.key rule _ names name key).trans ?_
      rw [Declaration.attribute?]
      split <;> rfl
  | cell rule aliases =>
      rw [declare, registerCell_eq]
      refine (NameTable.slot?_foldl_update AttributeRule.key (.cellDefaults rule) _
        (Declaration.defaultNames aliases) name key).trans ?_
      rw [Declaration.attribute?]
      split <;> rename_i named
      · exact (if_pos named).symm ▸ rfl
      · exact (if_neg named).symm ▸ rfl
  | tag | macroRule | building =>
      rfl

/-- The names of attributes that are known are those that were and those of the declaration. -/
theorem knowsAttribute_declare :
    (vocabulary.declare declaration).knowsAttribute name =
      (declaration.namesAttribute name || vocabulary.knowsAttribute name) := by
  have known (vocabulary : Vocabulary) : vocabulary.knowsAttribute name =
      (vocabulary.attributes.contains name || vocabulary.building.contains name ||
        vocabulary.cells.contains name) :=
    rfl
  cases declaration with
  | target names rule =>
      rw [known, known, declare, registerAttribute, NameTable.contains_foldl_update,
        Declaration.namesAttribute]
      simp only [Bool.or_assoc]
  | building names rule =>
      rw [known, known, declare, registerBuilding, NameTable.contains_foldl_update,
        Declaration.namesAttribute]
      simp only [Bool.or_assoc, Bool.or_left_comm]
  | cell rule aliases =>
      rw [known, known, declare, registerCell_eq, registerAttribute,
        NameTable.contains_foldl_update, NameTable.contains_insertAll, Declaration.namesAttribute]
      simp only [Bool.or_assoc, Bool.or_left_comm]
  | tag | macroRule =>
      rfl

end Steps

/-- What a vocabulary answers after declarations is what the last of them says, if each adds to
the answers what it says. -/
theorem answer_ofDeclarations
    {α : Type}
    (answer : Vocabulary → Option α)
    (tells : Declaration → Option α)
    (nothing : answer empty = none)
    (declares :
      ∀ vocabulary declaration,
        answer (declare vocabulary declaration) = (tells declaration).or (answer vocabulary))
    (declarations : List Declaration) :
    answer (ofDeclarations declarations) = Declaration.last tells declarations := by
  have further (vocabulary : Vocabulary) :
      answer (declarations.foldl declare vocabulary) =
        (Declaration.last tells declarations).or (answer vocabulary) := by
    induction declarations generalizing vocabulary with
    | nil =>
        rfl
    | cons first rest inductionHypothesis =>
        rw [List.foldl_cons, inductionHypothesis, declares, Declaration.last_cons,
          Option.or_assoc]
  rw [ofDeclarations, further, nothing, Option.or_none]

section Answers

variable (declarations : List Declaration) (name : String)

theorem tag?_ofDeclarations :
    (ofDeclarations declarations).tag? name =
      Declaration.last (Declaration.tag? name) declarations :=
  answer_ofDeclarations (·.tag? name) _ rfl (fun before next => before.tag?_declare next name) _

theorem macroRule?_ofDeclarations :
    (ofDeclarations declarations).macroRule? name =
      Declaration.last (Declaration.macroRule? name) declarations :=
  answer_ofDeclarations (·.macroRule? name) _ rfl
    (fun before next => before.macroRule?_declare next name) _

theorem cell?_ofDeclarations :
    (ofDeclarations declarations).cell? name =
      Declaration.last (Declaration.cell? name) declarations :=
  answer_ofDeclarations (·.cell? name) _ rfl (fun before next => before.cell?_declare next name) _

theorem buildingFor?_ofDeclarations
    (feature : Feature) :
    (ofDeclarations declarations).buildingFor? name feature =
      Declaration.last (Declaration.building? name feature) declarations :=
  answer_ofDeclarations (·.buildingFor? name feature) _ rfl
    (fun before next => before.buildingFor?_declare next name feature) _

theorem attributeFor?_ofDeclarations
    (key : TargetKey) :
    (ofDeclarations declarations).attributeFor? name key =
      Declaration.last (Declaration.attribute? name key) declarations :=
  answer_ofDeclarations (·.attributeFor? name key) _ rfl
    (fun before next => before.attributeFor?_declare next name key) _

/-- Exactly the names of attributes that a declaration gives are known. -/
theorem knowsAttribute_ofDeclarations :
    (ofDeclarations declarations).knowsAttribute name =
      declarations.any fun declaration => declaration.namesAttribute name := by
  have further (vocabulary : Vocabulary) :
      (declarations.foldl declare vocabulary).knowsAttribute name =
        (declarations.any (Declaration.namesAttribute name) ||
          vocabulary.knowsAttribute name) := by
    induction declarations generalizing vocabulary with
    | nil =>
        rfl
    | cons first rest inductionHypothesis =>
        rw [List.foldl_cons, inductionHypothesis, knowsAttribute_declare, List.any_cons]
        cases first.namesAttribute name <;> cases rest.any _ <;> rfl
  exact (further empty).trans (Bool.or_false _)

end Answers

/--
Whether a vocabulary answers for a name as declarations say: with the rule of the last one that has
the name, and the key or feature where those are asked for. A name of attributes is unsupported
where it has only other keys, and unknown if no declaration has it.
-/
structure AnswersAs (vocabulary : Vocabulary) (declarations : List Declaration) (name : String) :
    Prop where
  tag :
    vocabulary.tag? name = Declaration.last (Declaration.tag? name) declarations
  macroRule :
    vocabulary.macroRule? name = Declaration.last (Declaration.macroRule? name) declarations
  cell :
    vocabulary.cell? name = Declaration.last (Declaration.cell? name) declarations
  building :
    ∀ features,
      vocabulary.building? name features =
        features.findSome? fun feature =>
          Declaration.last (Declaration.building? name feature) declarations
  found :
    ∀ ancestry rule,
      vocabulary.resolve ancestry name = .found rule ↔
        (ancestry.findSome? fun key =>
          Declaration.last (Declaration.attribute? name key) declarations) = some rule
  unsupported :
    ∀ ancestry,
      vocabulary.resolve ancestry name = .unsupported ↔
        (∀ key ∈ ancestry, Declaration.last (Declaration.attribute? name key) declarations = none) ∧
          ∃ declaration ∈ declarations, declaration.namesAttribute name = true
  unknown :
    ∀ ancestry,
      vocabulary.resolve ancestry name = .unknown ↔
        ∀ declaration ∈ declarations, declaration.namesAttribute name = false

/--
Whether a declaration changes no answer of a vocabulary for a name of which it says nothing, be it
that it has other names, other keys or features, or other things to name. All that it does to
attributes that it names for other keys is that their name is not unknown any more.
-/
structure Spares (vocabulary : Vocabulary) (declaration : Declaration) (name : String) : Prop where
  tag :
    declaration.tag? name = none →
      (vocabulary.declare declaration).tag? name = vocabulary.tag? name
  macroRule :
    declaration.macroRule? name = none →
      (vocabulary.declare declaration).macroRule? name = vocabulary.macroRule? name
  cell :
    declaration.cell? name = none →
      (vocabulary.declare declaration).cell? name = vocabulary.cell? name
  building :
    ∀ features,
      (∀ feature ∈ features, declaration.building? name feature = none) →
        (vocabulary.declare declaration).building? name features =
          vocabulary.building? name features
  target :
    ∀ ancestry,
      (∀ key ∈ ancestry, declaration.attribute? name key = none) →
        (vocabulary.declare declaration).resolve ancestry name =
          match vocabulary.resolve ancestry name with
          | .unknown => if declaration.namesAttribute name then .unsupported else .unknown
          | known => known

theorem answersAs_ofDeclarations
    (declarations : List Declaration)
    (name : String) :
    (ofDeclarations declarations).AnswersAs declarations name where
  tag := tag?_ofDeclarations declarations name
  macroRule := macroRule?_ofDeclarations declarations name
  cell := cell?_ofDeclarations declarations name
  building features := by
    rw [building?_eq, funext (buildingFor?_ofDeclarations declarations name)]
  found ancestry rule := by
    rw [resolve_eq, funext (attributeFor?_ofDeclarations declarations name)]
    split
    · rename_i spoken
      rw [spoken, Resolution.found.injEq, Option.some.injEq]
    · rename_i silent
      rw [silent]
      split <;> exact ⟨nofun, nofun⟩
  unsupported ancestry := by
    rw [resolve_eq, funext (attributeFor?_ofDeclarations declarations name),
      knowsAttribute_ofDeclarations, ← List.findSome?_eq_none_iff, ← List.any_eq_true]
    split
    · rename_i spoken
      rw [spoken]
      exact ⟨nofun, fun isSilent => nomatch isSilent.1⟩
    · rename_i silent
      rw [silent]
      split <;> rename_i isKnown
      · exact ⟨fun _ => ⟨rfl, isKnown⟩, fun _ => rfl⟩
      · exact ⟨nofun, fun isSilent => absurd isSilent.2 isKnown⟩
  unknown ancestry := by
    rw [resolve_eq_unknown_iff, knowsAttribute_ofDeclarations, List.any_eq_false]
    simp only [Bool.not_eq_true]

theorem spares
    (vocabulary : Vocabulary)
    (declaration : Declaration)
    (name : String) :
    vocabulary.Spares declaration name where
  tag silent := by
    rw [tag?_declare, silent, Option.none_or]
  macroRule silent := by
    rw [macroRule?_declare, silent, Option.none_or]
  cell silent := by
    rw [cell?_declare, silent, Option.none_or]
  building features silent := by
    rw [building?_eq, building?_eq]
    refine findSome?_congr fun feature member => ?_
    rw [buildingFor?_declare, silent feature member, Option.none_or]
  target ancestry silent := by
    have same : ancestry.findSome? ((vocabulary.declare declaration).attributeFor? name) =
        ancestry.findSome? (vocabulary.attributeFor? name) := by
      refine findSome?_congr fun key member => ?_
      rw [attributeFor?_declare, silent key member, Option.none_or]
    rw [resolve_eq, resolve_eq, same, knowsAttribute_declare]
    cases ancestry.findSome? (vocabulary.attributeFor? name) with
    | some rule =>
        rfl
    | none =>
        cases vocabulary.knowsAttribute name <;> cases declaration.namesAttribute name <;> rfl

/--
A registry is a map in which the last write wins: after any registrations, in any order, every name
is answered as the last one says that has it, with the keys and features that are asked for in
their order; and one more registration changes no answer for what it does not say.
-/
theorem ofDeclarations_lastWins
    (declarations : List Declaration)
    (name : String) :
    (ofDeclarations declarations).AnswersAs declarations name ∧
      ∀ declaration, (ofDeclarations declarations).Spares declaration name :=
  ⟨answersAs_ofDeclarations declarations name,
    fun declaration => spares (ofDeclarations declarations) declaration name⟩

end Vocabulary

end WidgetMarkup
