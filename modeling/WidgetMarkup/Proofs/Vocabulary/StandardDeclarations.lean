import Mathlib.Data.List.Pairwise
import WidgetMarkup.Proofs.Vocabulary.Declarations

namespace WidgetMarkup

/-!
# The declarations of the language

The vocabulary of the language is made by declarations, so a rule that is found in it is one that
the language declares under that name. All that is known of the rules of the language follows from
its tables in this way.
-/

/-- Where no two elements of a list have a name in common, a name is listed for one at most. -/
theorem Declaration.eq_of_lists
    {α : Type}
    {namesOf : α → List String}
    {elements : List α}
    (distinct :
      elements.Pairwise fun first second =>
        ∀ name ∈ namesOf first, ∀ other ∈ namesOf second, Text.sameName name other = false)
    {first second : α}
    (isFirst : first ∈ elements)
    (isSecond : second ∈ elements)
    {name : String}
    (named : lists (namesOf first) name = true)
    (alsoNamed : lists (namesOf second) name = true) :
    first = second := by
  obtain ⟨own, isOwn, sameOwn⟩ := List.any_eq_true.1 named
  obtain ⟨other, isOther, sameOther⟩ := List.any_eq_true.1 alsoNamed
  have foldCase : Text.foldCase own = Text.foldCase other :=
    (Text.sameName_iff.1 sameOwn).trans (Text.sameName_iff.1 sameOther).symm
  have notApart {left right : String}
      (same : Text.foldCase left = Text.foldCase right) :
      Text.sameName left right ≠ false :=
    fun apart => Bool.eq_false_iff.1 apart (Text.sameName_iff.2 same)
  induction distinct with
  | nil =>
      cases isFirst
  | cons apart _ inductionHypothesis =>
      rcases List.mem_cons.1 isFirst with rfl | inRest <;>
        rcases List.mem_cons.1 isSecond with rfl | alsoInRest
      · rfl
      · exact absurd (apart second alsoInRest own isOwn other isOther) (notApart foldCase)
      · exact absurd (apart first inRest other isOther own isOwn) (notApart foldCase.symm)
      · exact inductionHypothesis inRest alsoInRest

namespace Vocabulary

/-- The registrations that make the vocabulary of the language. -/
def standardDeclarations : List Declaration :=
  standardTags.map (fun entry => .tag entry.1 entry.2) ++
    StandardAttribute.building.map (fun entry => .building entry.1 entry.2) ++
    StandardAttribute.target.map (fun entry => .target entry.1 entry.2) ++
    StandardAttribute.cell.map (fun entry => .cell entry.2 [entry.1]) ++
    StandardMacro.all.map (fun entry => .macroRule entry.1 entry.2)

theorem standard_eq_ofDeclarations :
    standard = ofDeclarations standardDeclarations := by
  simp only [standard, ofDeclarations, standardDeclarations, List.foldl_append, List.foldl_map,
    declare]

/-- What is said of the language is said in one of its tables. -/
theorem exists_of_last_standardDeclarations
    {α : Type}
    {tells : Declaration → Option α}
    {answer : α}
    (isLast : Declaration.last tells standardDeclarations = some answer) :
    (∃ entry ∈ standardTags, tells (.tag entry.1 entry.2) = some answer) ∨
      (∃ entry ∈ StandardAttribute.building, tells (.building entry.1 entry.2) = some answer) ∨
      (∃ entry ∈ StandardAttribute.target, tells (.target entry.1 entry.2) = some answer) ∨
      (∃ entry ∈ StandardAttribute.cell, tells (.cell entry.2 [entry.1]) = some answer) ∨
      ∃ entry ∈ StandardMacro.all, tells (.macroRule entry.1 entry.2) = some answer := by
  obtain ⟨declaration, member, spoken⟩ := Declaration.exists_of_last isLast
  simp only [standardDeclarations, List.mem_append, List.mem_map] at member
  rcases member with (((member | member) | member) | member) | member
  all_goals obtain ⟨entry, listed, rfl⟩ := member
  · exact .inl ⟨entry, listed, spoken⟩
  · exact .inr (.inl ⟨entry, listed, spoken⟩)
  · exact .inr (.inr (.inl ⟨entry, listed, spoken⟩))
  · exact .inr (.inr (.inr (.inl ⟨entry, listed, spoken⟩)))
  · exact .inr (.inr (.inr (.inr ⟨entry, listed, spoken⟩)))

/-- A tag that is found is declared under its name. -/
theorem exists_of_tag?_standard
    {name : String}
    {rule : TagRule}
    (found : standard.tag? name = some rule) :
    ∃ entry ∈ standardTags, Declaration.lists entry.1 name = true ∧ entry.2 = rule := by
  rw [standard_eq_ofDeclarations, tag?_ofDeclarations] at found
  rcases exists_of_last_standardDeclarations found with
    ⟨entry, listed, spoken⟩ | ⟨_, _, ⟨⟩⟩ | ⟨_, _, ⟨⟩⟩ | ⟨_, _, ⟨⟩⟩ | ⟨_, _, ⟨⟩⟩
  simp only [Declaration.tag?, Option.ite_none_right_eq_some, Option.some.injEq] at spoken
  exact ⟨entry, listed, spoken⟩

/-- A macro that is found is declared under its name. -/
theorem exists_of_macroRule?_standard
    {name : String}
    {rule : MacroRule}
    (found : standard.macroRule? name = some rule) :
    ∃ entry ∈ StandardMacro.all, Declaration.lists entry.1 name = true ∧ entry.2 = rule := by
  rw [standard_eq_ofDeclarations, macroRule?_ofDeclarations] at found
  rcases exists_of_last_standardDeclarations found with
    ⟨_, _, ⟨⟩⟩ | ⟨_, _, ⟨⟩⟩ | ⟨_, _, ⟨⟩⟩ | ⟨_, _, ⟨⟩⟩ | ⟨entry, listed, spoken⟩
  simp only [Declaration.macroRule?, Option.ite_none_right_eq_some, Option.some.injEq] at spoken
  exact ⟨entry, listed, spoken⟩

/-- Whether macros have no name in common. -/
def HaveDistinctNames (first second : List String × MacroRule) : Prop :=
  ∀ name ∈ first.1, ∀ other ∈ second.1, Text.sameName name other = false

instance : DecidableRel HaveDistinctNames :=
  fun first second =>
    inferInstanceAs
      (Decidable (∀ name ∈ first.1, ∀ other ∈ second.1, Text.sameName name other = false))

theorem haveDistinctNames_standardMacros :
    StandardMacro.all.Pairwise HaveDistinctNames := by
  decide +kernel

/-- A macro of the language is found under all of its names. -/
theorem macroRule?_standard_of_mem
    {entry : List String × MacroRule}
    (listed : entry ∈ StandardMacro.all)
    {name : String}
    (named : Declaration.lists entry.1 name = true) :
    standard.macroRule? name = some entry.2 := by
  cases found : standard.macroRule? name with
  | none =>
      have declared : Declaration.macroRule? name (.macroRule entry.1 entry.2) = some entry.2 :=
        if_pos named
      have member : .macroRule entry.1 entry.2 ∈ standardDeclarations :=
        List.mem_append_right _ (List.mem_map_of_mem listed)
      rw [standard_eq_ofDeclarations, macroRule?_ofDeclarations, Declaration.last,
        List.findSome?_eq_none_iff] at found
      rw [found _ (List.mem_reverse.2 member)] at declared
      cases declared
  | some rule =>
      obtain ⟨other, otherListed, otherNamed, rfl⟩ := exists_of_macroRule?_standard found
      rw [Declaration.eq_of_lists haveDistinctNames_standardMacros otherListed listed otherNamed
        named]

/-- An attribute of blueprints that is found is declared under its name for one of the features. -/
theorem exists_of_building?_standard
    {name : String}
    {features : List Feature}
    {rule : BuildingRule}
    (found : standard.building? name features = some rule) :
    rule.feature ∈ features ∧
      ∃ entry ∈ StandardAttribute.building,
        Declaration.lists entry.1 name = true ∧ entry.2 = rule := by
  rw [building?_eq] at found
  obtain ⟨feature, member, found⟩ := List.exists_of_findSome?_eq_some found
  rw [standard_eq_ofDeclarations, buildingFor?_ofDeclarations] at found
  rcases exists_of_last_standardDeclarations found with
    ⟨_, _, ⟨⟩⟩ | ⟨entry, listed, spoken⟩ | ⟨_, _, ⟨⟩⟩ | ⟨_, _, ⟨⟩⟩ | ⟨_, _, ⟨⟩⟩
  simp only [Declaration.building?, Bool.and_eq_true, beq_iff_eq, Option.ite_none_right_eq_some,
    Option.some.injEq] at spoken
  obtain ⟨⟨named, rfl⟩, rfl⟩ := spoken
  exact ⟨member, entry, listed, named, rfl⟩

/-- A cell attribute that is found is declared under its name on cells. -/
theorem exists_of_cell?_standard
    {name : String}
    {rule : CellRule}
    (found : standard.cell? name = some rule) :
    ∃ entry ∈ StandardAttribute.cell,
      Declaration.lists [entry.1.cell] name = true ∧ entry.2 = rule := by
  rw [standard_eq_ofDeclarations, cell?_ofDeclarations] at found
  rcases exists_of_last_standardDeclarations found with
    ⟨_, _, ⟨⟩⟩ | ⟨_, _, ⟨⟩⟩ | ⟨_, _, ⟨⟩⟩ | ⟨entry, listed, spoken⟩ | ⟨_, _, ⟨⟩⟩
  simp only [Declaration.cell?, Option.ite_none_right_eq_some, Option.some.injEq] at spoken
  exact ⟨entry, listed, spoken⟩

/-- An attribute that is found for a target is declared under its name for one of the keys, or is
the name on tables of a cell attribute. -/
theorem exists_of_resolve_standard
    {ancestry : List TargetKey}
    {name : String}
    {rule : AttributeRule}
    (found : standard.resolve ancestry name = .found rule) :
    rule.key ∈ ancestry ∧
      ((∃ entry ∈ StandardAttribute.target,
          Declaration.lists entry.1 name = true ∧ entry.2 = rule) ∨
        ∃ entry ∈ StandardAttribute.cell,
          Declaration.lists entry.1.default.toList name = true ∧
            AttributeRule.cellDefaults entry.2 = rule) := by
  rw [standard_eq_ofDeclarations, (answersAs_ofDeclarations _ name).found] at found
  obtain ⟨key, member, found⟩ := List.exists_of_findSome?_eq_some found
  rcases exists_of_last_standardDeclarations found with
    ⟨_, _, ⟨⟩⟩ | ⟨_, _, ⟨⟩⟩ | ⟨entry, listed, spoken⟩ | ⟨entry, listed, spoken⟩ | ⟨_, _, ⟨⟩⟩
  · simp only [Declaration.attribute?, Bool.and_eq_true, beq_iff_eq,
      Option.ite_none_right_eq_some, Option.some.injEq] at spoken
    obtain ⟨⟨named, rfl⟩, rfl⟩ := spoken
    exact ⟨member, .inl ⟨entry, listed, named, rfl⟩⟩
  · simp only [Declaration.attribute?, Bool.and_eq_true, beq_iff_eq,
      Option.ite_none_right_eq_some, Option.some.injEq] at spoken
    obtain ⟨⟨named, rfl⟩, rfl⟩ := spoken
    refine ⟨member, .inr ⟨entry, listed, ?_, rfl⟩⟩
    cases onTables : entry.1.default <;> simpa [Declaration.defaultNames, onTables] using named

end Vocabulary

end WidgetMarkup
