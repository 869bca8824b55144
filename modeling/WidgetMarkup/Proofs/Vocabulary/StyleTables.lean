import Mathlib.Data.List.Induction
import Mathlib.Data.List.Nodup
import WidgetMarkup.Interpreter
import WidgetMarkup.Proofs.Vocabulary.Declarations

namespace WidgetMarkup

open Markup

/-!
# Tables of defaults

A definition of a default replaces the one of its name or is put behind the others. So a table
holds the last definition of each name, in the order of the first ones, and a tag gets exactly
those that it lacks, behind its own attributes.
-/

namespace Markup.Attribute

/-- What attributes of one name, up to case, have in common. -/
def key (entry : Attribute) : String :=
  Text.foldCase entry.name

theorem isNamed_eq
    (entry other : Attribute) :
    entry.isNamed other.name = (entry.key == other.key) :=
  rfl

theorem isPresent_congr
    {name other : String}
    (same : Text.sameName name other = true)
    (attributes : List Attribute) :
    isPresent name attributes = isPresent other attributes := by
  unfold isPresent isNamed Text.sameName
  rw [Text.sameName_iff.1 same]

theorem isPresent_append
    (name : String)
    (first second : List Attribute) :
    isPresent name (first ++ second) = (isPresent name first || isPresent name second) :=
  List.any_append

theorem isPresent_of_mem
    {entry : Attribute}
    {attributes : List Attribute}
    (member : entry ∈ attributes) :
    isPresent entry.name attributes = true :=
  List.any_eq_true.2 ⟨entry, member, Text.sameName_self entry.name⟩

end Markup.Attribute

namespace StyleSheet

/-- A definition of a default: the name of the tags that get it, and the attribute. -/
abbrev Definition := String × Attribute

/-- The sheet with definitions, one after another. -/
def addAll (sheet : StyleSheet) (definitions : List Definition) : StyleSheet :=
  definitions.foldl (fun sheet definition => sheet.add definition.1 definition.2) sheet

/-- The sheet of definitions. -/
def ofDefinitions (definitions : List Definition) : StyleSheet :=
  addAll {} definitions

/-- The attributes that definitions give to tags of a name, up to case. -/
def definitionsOf (tag : String) (definitions : List Definition) : List Attribute :=
  definitions.filterMap fun definition =>
    if Text.sameName definition.1 tag then some definition.2 else none

/-- Whether a definition is the last one of its name. -/
def IsLastIn (entry : Attribute) (definitions : List Attribute) : Prop :=
  ∃ earlier later, definitions = earlier ++ entry :: later ∧
    ∀ other ∈ later, other.isNamed entry.name = false

/--
Whether defaults are what definitions come to: no name twice, the names in the order of their first
definitions, and of each name its last definition.
-/
structure Comprises (definitions defaults : List Attribute) : Prop where
  distinct :
    defaults.Pairwise fun earlier later => earlier.isNamed later.name = false
  order :
    defaults.map Attribute.key = (definitions.map Attribute.key).eraseDups
  last :
    ∀ entry, entry ∈ defaults ↔ IsLastIn entry definitions

/-- Definitions that are placed one after another. -/
def place (defaults definitions : List Attribute) : List Attribute :=
  definitions.foldl (fun defaults entry => placeDefault entry (some defaults)) defaults

theorem place_append
    (defaults earlier later : List Attribute) :
    place defaults (earlier ++ later) = place (place defaults earlier) later :=
  List.foldl_append

theorem addAll_append
    (sheet : StyleSheet)
    (earlier later : List Definition) :
    sheet.addAll (earlier ++ later) = (sheet.addAll earlier).addAll later :=
  List.foldl_append

/-- A definition concerns the tags of its name. -/
theorem defaultsOf_add
    (sheet : StyleSheet)
    (tag other : String)
    (entry : Attribute) :
    (sheet.add tag entry).defaultsOf other =
      if Text.sameName tag other then
        placeDefault entry (some (sheet.defaultsOf other))
      else
        sheet.defaultsOf other := by
  unfold defaultsOf add NameTable.update
  rw [NameTable.find?_insert]
  split
  · rename_i same
    rw [NameTable.find?_congr (Text.sameName_iff.1 same)]
    rfl
  · rfl

/-- The defaults of a tag are what its own definitions make of those that were there. -/
theorem defaultsOf_addAll
    (sheet : StyleSheet)
    (definitions : List Definition)
    (tag : String) :
    (sheet.addAll definitions).defaultsOf tag =
      place (sheet.defaultsOf tag) (definitionsOf tag definitions) := by
  induction definitions generalizing sheet with
  | nil =>
      rfl
  | cons definition rest inductionHypothesis =>
      calc
        ((sheet.add definition.1 definition.2).addAll rest).defaultsOf tag
        _ = place ((sheet.add definition.1 definition.2).defaultsOf tag)
              (definitionsOf tag rest) :=
          inductionHypothesis _
        _ = place (sheet.defaultsOf tag) (definitionsOf tag (definition :: rest)) := by
          rw [defaultsOf_add, definitionsOf, definitionsOf, List.filterMap_cons]
          split <;> rfl

/-- A definition whose name is there takes the place of its name, and another one comes last. -/
theorem map_key_placeDefault
    (entry : Attribute)
    (defaults : List Attribute) :
    (placeDefault entry (some defaults)).map Attribute.key =
      if entry.key ∈ defaults.map Attribute.key then
        defaults.map Attribute.key
      else
        defaults.map Attribute.key ++ [entry.key] := by
  unfold placeDefault
  rw [Option.getD_some]
  induction defaults with
  | nil =>
      rfl
  | cons first rest inductionHypothesis =>
      rw [placeRule, Attribute.isNamed_eq]
      by_cases same : first.key = entry.key
      · simp [same]
      · rw [if_neg (by simpa using same), List.map_cons, inductionHypothesis]
        rw [List.map_cons]
        by_cases later : entry.key ∈ rest.map Attribute.key
        · rw [if_pos later, if_pos (List.mem_cons_of_mem _ later)]
        · have new : entry.key ∉ first.key :: rest.map Attribute.key :=
            List.not_mem_cons_of_ne_of_not_mem (Ne.symm same) later
          rw [if_neg later, if_neg new, List.cons_append]

/-- A name that is listed behind others is a new one unless it is one of them. -/
theorem eraseDups_append_singleton
    (keys : List String)
    (key : String) :
    (keys ++ [key]).eraseDups =
      if key ∈ keys then keys.eraseDups else keys.eraseDups ++ [key] := by
  rw [List.eraseDups_append, List.removeAll, List.filter_singleton]
  by_cases known : key ∈ keys <;> simp [known, List.eraseDups_cons]

/-- Names that are listed once each are distinct. -/
theorem nodup_eraseDups
    (keys : List String) :
    keys.eraseDups.Nodup := by
  induction keys using List.reverseRecOn with
  | nil =>
      exact List.nodup_nil
  | append_singleton earlier key inductionHypothesis =>
      rw [eraseDups_append_singleton]
      split
      · exact inductionHypothesis
      · rename_i new
        have notListed : key ∉ earlier.eraseDups := mt List.mem_eraseDups.1 new
        exact List.nodup_append.2 ⟨inductionHypothesis, List.nodup_singleton key, by
          rintro other listed _ (_ | ⟨_, ⟨⟩⟩) rfl
          exact notListed listed⟩

/-- The names are there in the order of their first definitions. -/
theorem map_key_place
    (definitions : List Attribute) :
    (place [] definitions).map Attribute.key = (definitions.map Attribute.key).eraseDups := by
  induction definitions using List.reverseRecOn with
  | nil =>
      rfl
  | append_singleton earlier entry inductionHypothesis =>
      rw [place_append, List.map_append, List.map_singleton, eraseDups_append_singleton,
        ← inductionHypothesis]
      refine (map_key_placeDefault entry (place [] earlier)).trans ?_
      simp only [inductionHypothesis, List.mem_eraseDups]

/-- A default is looked up among the definitions from the last one on. -/
theorem find?_place
    (definitions : List Attribute)
    (key : String) :
    (place [] definitions).find? (fun entry => entry.key == key) =
      definitions.reverse.find? fun entry => entry.key == key := by
  induction definitions using List.reverseRecOn with
  | nil =>
      rfl
  | append_singleton earlier entry inductionHypothesis =>
      rw [place_append, List.reverse_append, List.reverse_singleton, List.singleton_append,
        List.find?_cons, ← inductionHypothesis]
      refine (NameTable.find?_placeRule Attribute.key entry (place [] earlier) key).trans ?_
      cases entry.key == key <;> rfl

/-- The last definition of a name is the first one from behind. -/
theorem isLastIn_iff
    {entry : Attribute}
    {definitions : List Attribute} :
    IsLastIn entry definitions ↔
      definitions.reverse.find? (fun other => other.key == entry.key) = some entry := by
  rw [List.find?_eq_some_iff_append]
  constructor
  · rintro ⟨earlier, later, rfl, others⟩
    refine ⟨beq_self_eq_true _, later.reverse, earlier.reverse, by simp, fun other member => ?_⟩
    rw [← Attribute.isNamed_eq, others other (List.mem_reverse.1 member)]
    rfl
  · rintro ⟨_, later, earlier, reversed, others⟩
    refine ⟨earlier.reverse, later.reverse, by simpa using congrArg List.reverse reversed, ?_⟩
    intro other member
    rw [Attribute.isNamed_eq]
    simpa using others other (List.mem_reverse.1 member)

/-- In a list without any name twice, an entry is found under its name. -/
theorem find?_key_eq_some_iff
    {defaults : List Attribute}
    (distinct : (defaults.map Attribute.key).Nodup)
    (entry : Attribute) :
    defaults.find? (fun other => other.key == entry.key) = some entry ↔ entry ∈ defaults := by
  constructor
  · exact List.mem_of_find?_eq_some
  · intro member
    cases found : defaults.find? fun other => other.key == entry.key with
    | none =>
        exact absurd (beq_self_eq_true entry.key) (List.find?_eq_none.1 found entry member)
    | some other =>
        have sameKey : other.key = entry.key := by
          simpa using List.find?_some found
        rw [List.inj_on_of_nodup_map distinct (List.mem_of_find?_eq_some found) member sameKey]

/-- What definitions are placed as is what they come to. -/
theorem comprises_place
    (definitions : List Attribute) :
    Comprises definitions (place [] definitions) := by
  have order := map_key_place definitions
  have distinct : ((place [] definitions).map Attribute.key).Nodup :=
    order ▸ nodup_eraseDups _
  refine ⟨?_, order, fun entry => ?_⟩
  · exact (List.pairwise_map.1 distinct).imp fun other => by
      rw [Attribute.isNamed_eq]
      simpa using other
  · rw [isLastIn_iff, ← find?_place, find?_key_eq_some_iff distinct]

theorem comprises_defaultsOf
    (definitions : List Definition)
    (tag : String) :
    Comprises (definitionsOf tag definitions) ((ofDefinitions definitions).defaultsOf tag) := by
  rw [ofDefinitions, defaultsOf_addAll]
  exact comprises_place _

/-- A tag gets the defaults that it lacks behind its own attributes, in their order. -/
theorem complete_eq
    {sheet : StyleSheet}
    {tag : String}
    (distinct :
      (sheet.defaultsOf tag).Pairwise fun earlier later => earlier.isNamed later.name = false)
    (attributes : List Attribute) :
    sheet.complete tag attributes =
      attributes ++
        (sheet.defaultsOf tag).filter fun entry => !Attribute.isPresent entry.name attributes := by
  unfold complete
  generalize sheet.defaultsOf tag = defaults at distinct
  induction defaults generalizing attributes with
  | nil =>
      rw [List.foldl_nil, List.filter_nil, List.append_nil]
  | cons entry rest inductionHypothesis =>
      obtain ⟨others, distinctRest⟩ := List.pairwise_cons.1 distinct
      rw [List.foldl_cons, inductionHypothesis _ distinctRest, List.filter_cons]
      cases present : Attribute.isPresent entry.name attributes with
      | true =>
          simp
      | false =>
          -- The attribute that is put behind the others has none of the names that follow.
          have sameFilter :
              rest.filter (fun other =>
                  !Attribute.isPresent other.name (attributes ++ [entry])) =
                rest.filter fun other => !Attribute.isPresent other.name attributes := by
            refine List.filter_congr fun other member => ?_
            simp [Attribute.isPresent, others other member]
          simp [sameFilter]

/-- A tag that has been completed lacks nothing. -/
theorem complete_complete
    {sheet : StyleSheet}
    {tag : String}
    (distinct :
      (sheet.defaultsOf tag).Pairwise fun earlier later => earlier.isNamed later.name = false)
    (attributes : List Attribute) :
    sheet.complete tag (sheet.complete tag attributes) = sheet.complete tag attributes := by
  rw [complete_eq distinct (sheet.complete tag attributes), List.append_right_eq_self,
    List.filter_eq_nil_iff]
  intro entry member
  rw [complete_eq distinct, Attribute.isPresent_append]
  cases present : Attribute.isPresent entry.name attributes with
  | true =>
      simp
  | false =>
      have isAdded : entry ∈ (sheet.defaultsOf tag).filter fun other =>
          !Attribute.isPresent other.name attributes :=
        List.mem_filter.2 ⟨member, by simp [present]⟩
      simp [Attribute.isPresent_of_mem isAdded]

section Without

variable {tag name : String}

/-- The definitions without those of a default for a tag. -/
def without (tag name : String) (definitions : List Definition) : List Definition :=
  definitions.filter fun definition =>
    !(Text.sameName definition.1 tag && definition.2.isNamed name)

/-- The attributes that are not of a name. -/
def otherThan (name : String) (attributes : List Attribute) : List Attribute :=
  attributes.filter fun entry => !entry.isNamed name

theorem definitionsOf_without
    (definitions : List Definition) :
    definitionsOf tag (without tag name definitions) =
      otherThan name (definitionsOf tag definitions) := by
  rw [definitionsOf, definitionsOf, without, otherThan, List.filterMap_filter,
    List.filter_filterMap]
  refine List.filterMap_congr fun definition _ => ?_
  cases isOfTag : Text.sameName definition.1 tag <;>
    cases isNamed : definition.2.isNamed name <;> simp [isNamed, Option.filter]

/-- A definition of a default leaves the other defaults as they are. -/
theorem otherThan_placeDefault
    (entry : Attribute)
    (defaults : List Attribute) :
    otherThan name (placeDefault entry (some defaults)) =
      if entry.isNamed name then
        otherThan name defaults
      else
        placeDefault entry (some (otherThan name defaults)) := by
  unfold placeDefault otherThan
  simp only [Option.getD_some]
  induction defaults with
  | nil =>
      cases isNamed : entry.isNamed name <;> simp [placeRule, isNamed]
  | cons first rest inductionHypothesis =>
      rw [placeRule]
      by_cases same : first.isNamed entry.name = true
      · -- A default that is replaced has the name of the one that replaces it.
        have sameName : first.isNamed name = entry.isNamed name := by
          unfold Attribute.isNamed Text.sameName
          rw [Text.sameName_iff.1 same]
        cases isNamed : entry.isNamed name <;> simp [placeRule, same, sameName, isNamed]
      · cases isNamed : entry.isNamed name <;> cases isFirst : first.isNamed name <;>
          simp [placeRule, same, isNamed, isFirst, inductionHypothesis]

theorem place_otherThan
    (definitions : List Attribute) :
    place [] (otherThan name definitions) = otherThan name (place [] definitions) := by
  induction definitions using List.reverseRecOn with
  | nil =>
      rfl
  | append_singleton earlier entry inductionHypothesis =>
      rw [place_append]
      refine Eq.trans ?_ (otherThan_placeDefault entry (place [] earlier)).symm
      rw [← inductionHypothesis, otherThan, otherThan, List.filter_append, List.filter_singleton]
      cases isNamed : entry.isNamed name with
      | true =>
          simp
      | false =>
          exact place_append [] _ [entry]

/-- Without its definitions, a default is missing, and the others are as they were. -/
theorem defaultsOf_without
    (definitions : List Definition) :
    (ofDefinitions (without tag name definitions)).defaultsOf tag =
      otherThan name ((ofDefinitions definitions).defaultsOf tag) := by
  rw [ofDefinitions, defaultsOf_addAll, definitionsOf_without, ofDefinitions, defaultsOf_addAll]
  exact place_otherThan _

/-- A default whose name a tag has of its own makes no difference to it. -/
theorem complete_without_of_isPresent
    {attributes : List Attribute}
    (isPresent : Attribute.isPresent name attributes = true)
    (definitions : List Definition) :
    (ofDefinitions (without tag name definitions)).complete tag attributes =
      (ofDefinitions definitions).complete tag attributes := by
  rw [complete_eq (comprises_defaultsOf _ tag).distinct,
    complete_eq (comprises_defaultsOf _ tag).distinct, defaultsOf_without, otherThan,
    List.filter_filter]
  refine congrArg _ (List.filter_congr fun entry _ => ?_)
  cases isNamed : entry.isNamed name with
  | true =>
      simp [Attribute.isPresent_congr isNamed, isPresent]
  | false =>
      simp

/-- A default whose name a tag lacks is put behind all attributes that the tag has of its own. -/
theorem exists_complete_of_not_isPresent
    {definitions : List Definition}
    {entry : Attribute}
    {attributes : List Attribute}
    (isDefault : entry ∈ (ofDefinitions definitions).defaultsOf tag)
    (isLacking : Attribute.isPresent entry.name attributes = false) :
    ∃ earlier later,
      (ofDefinitions definitions).complete tag attributes =
          attributes ++ earlier ++ entry :: later ∧
        (ofDefinitions (without tag entry.name definitions)).complete tag attributes =
          attributes ++ earlier ++ later := by
  have distinct := (comprises_defaultsOf definitions tag).distinct
  rw [complete_eq distinct, complete_eq (comprises_defaultsOf _ tag).distinct, defaultsOf_without]
  obtain ⟨before, behind, split⟩ := List.append_of_mem isDefault
  rw [split] at distinct ⊢
  obtain ⟨_, ofBehind, ofBefore⟩ := List.pairwise_append.1 distinct
  have keptBefore : otherThan entry.name before = before :=
    List.filter_eq_self.2 fun other member => by simp [ofBefore other member entry]
  have keptBehind : otherThan entry.name behind = behind :=
    List.filter_eq_self.2 fun other member => by
      have different := (List.pairwise_cons.1 ofBehind).1 other member
      unfold Attribute.isNamed Text.sameName at different ⊢
      rw [Bool.beq_comm, different]
      rfl
  have without_entry : otherThan entry.name (before ++ entry :: behind) = before ++ behind := by
    conv_rhs => rw [← keptBefore, ← keptBehind]
    simp [otherThan, Attribute.isNamed, Text.sameName_self]
  let lacks (other : Attribute) : Bool := !Attribute.isPresent other.name attributes
  refine ⟨before.filter lacks, behind.filter lacks, ?_, ?_⟩
  · rw [List.filter_append, List.filter_cons_of_pos (by simp [isLacking]), List.append_assoc]
  · rw [without_entry, List.filter_append, List.append_assoc]

end Without

end StyleSheet

end WidgetMarkup
