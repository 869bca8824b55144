import Mathlib.Data.List.Induction
import WidgetMarkup.Proofs.Construction.Beginnings
import WidgetMarkup.Proofs.Vocabulary.NamelessRules

namespace WidgetMarkup

open Markup

/-!
# The attributes of ranges

A range is asked for in four parts, each by attributes of its own. An attribute writes its part and
leaves the others, so that of each part the last attribute counts, however those of the four stand
among each other.
-/

/-- The parts of a range that attributes ask for. -/
inductive RangePart where
  | least
  | greatest
  | step
  | value
deriving Repr, DecidableEq

namespace RangePart

/-- Every part. -/
def all : List RangePart :=
  [least, greatest, step, value]

/-- The names of the attributes for a part. -/
def attributeNames : RangePart → List String
  | least => ["min"]
  | greatest => ["max"]
  | step => ["step", "stepSize"]
  | value => ["value"]

/-- The part that an attribute of a name is for. -/
def ofAttribute? (name : String) : Option RangePart :=
  all.find? fun part => Declaration.lists part.attributeNames name

/-- Names that are the same are for the same part. -/
theorem ofAttribute?_congr
    {name other : String}
    (same : Text.sameName name other = true) :
    ofAttribute? name = ofAttribute? other := by
  unfold ofAttribute?
  simp only [Declaration.lists_congr same]

/-- A name that is listed is for the same part as all names of the list. -/
theorem ofAttribute?_of_lists
    {part : Option RangePart}
    {names : List String}
    {name : String}
    (each : ∀ other ∈ names, ofAttribute? other = part)
    (listed : Declaration.lists names name = true) :
    ofAttribute? name = part := by
  obtain ⟨other, member, same⟩ := List.any_eq_true.1 listed
  rw [← ofAttribute?_congr same]
  exact each other member

/-- A name that is for a part is listed for it. -/
theorem lists_of_ofAttribute?
    {name : String}
    {part : RangePart}
    (isPart : ofAttribute? name = some part) :
    Declaration.lists part.attributeNames name = true := by
  unfold ofAttribute? at isPart
  have listed := List.find?_some isPart
  exact listed

/-- The last value that is given for a part. -/
def last? (part : RangePart) (attributes : List Attribute) : Option String :=
  (attributes.reverse.find? fun entry => ofAttribute? entry.name == some part).map Attribute.value

/-- No value is given for a part if no attribute has one of its names. -/
theorem last?_eq_none
    {part : RangePart}
    {attributes : List Attribute}
    (unsaid : ∀ entry ∈ attributes, Declaration.lists part.attributeNames entry.name = false) :
    part.last? attributes = none := by
  unfold last?
  rw [Option.map_eq_none_iff, List.find?_eq_none]
  intro entry member isPart
  have listed := lists_of_ofAttribute? (eq_of_beq isPart)
  rw [unsaid entry (List.mem_reverse.1 member)] at listed
  cases listed

theorem last?_concat
    (part : RangePart)
    (attributes : List Attribute)
    (entry : Attribute) :
    part.last? (attributes ++ [entry]) =
      if ofAttribute? entry.name = some part then some entry.value else part.last? attributes := by
  unfold last?
  rw [List.reverse_concat, List.find?_cons]
  by_cases isPart : ofAttribute? entry.name = some part
  · simp [isPart]
  · have other : (ofAttribute? entry.name == some part) = false := by
      simp [isPart]
    rw [other, if_neg isPart]

end RangePart

namespace RangeRequest

/-- The number that is given for a part. -/
def part : RangePart → RangeRequest → Option Float32
  | .least, request => request.least
  | .greatest, request => request.greatest
  | .step, request => request.step
  | .value, request => request.value

/-- The request with a number for a part. -/
def write (number : Option Float32) : RangePart → RangeRequest → RangeRequest
  | .least, request => { request with least := number }
  | .greatest, request => { request with greatest := number }
  | .step, request => { request with step := number }
  | .value, request => { request with value := number }

theorem part_write
    (number : Option Float32)
    (written other : RangePart)
    (request : RangeRequest) :
    (request.write number written).part other =
      if written = other then number else request.part other := by
  cases written <;> cases other <;> rfl

/-- Requests with the same parts are the same. -/
theorem eq_of_part
    {first second : RangeRequest}
    (same : ∀ part : RangePart, first.part part = second.part part) :
    first = second := by
  obtain ⟨least, greatest, step, value⟩ := first
  obtain rfl : least = second.least := same .least
  obtain rfl : greatest = second.greatest := same .greatest
  obtain rfl : step = second.step := same .step
  obtain rfl : value = second.value := same .value
  rfl

/-- The number that a value spells. -/
def readNumber? (raw : String) : Option Float32 :=
  (AttributeValue.readNumber raw).toOption

/-- The request with what an attribute writes into it. -/
def written (request : RangeRequest) (entry : Attribute) : RangeRequest :=
  match RangePart.ofAttribute? entry.name with
  | some part => request.write (readNumber? entry.value) part
  | none => request

/-- What some attributes ask for: of each part, what the last one for it says. -/
def ofAttributes (attributes : List Attribute) : RangeRequest :=
  let asked (part : RangePart) : Option Float32 := (part.last? attributes).bind readNumber?
  { least := asked .least
    greatest := asked .greatest
    step := asked .step
    value := asked .value }

theorem part_ofAttributes
    (attributes : List Attribute)
    (part : RangePart) :
    (ofAttributes attributes).part part = (part.last? attributes).bind readNumber? := by
  cases part <;> rfl

/-- What attributes write, one after another, is what the last ones say. -/
theorem foldl_written
    (attributes : List Attribute) :
    attributes.foldl written {} = ofAttributes attributes := by
  induction attributes using List.reverseRecOn with
  | nil =>
      rfl
  | append_singleton attributes entry inductionHypothesis =>
      rw [List.foldl_concat, inductionHypothesis]
      refine eq_of_part fun part => ?_
      rw [part_ofAttributes, RangePart.last?_concat, written]
      cases isPart : RangePart.ofAttribute? entry.name with
      | none =>
          rw [if_neg (by simp), part_ofAttributes]
      | some other =>
          dsimp only
          rw [part_write]
          by_cases same : other = part
          · rw [if_pos same, if_pos (congrArg some same)]
            rfl
          · rw [if_neg same, if_neg (by simpa using same), part_ofAttributes]

/-- Attributes that say the same last of every part ask for the same. -/
theorem ofAttributes_congr
    {attributes attributes' : List Attribute}
    (same : ∀ part : RangePart, part.last? attributes = part.last? attributes') :
    ofAttributes attributes = ofAttributes attributes' := by
  refine eq_of_part fun part => ?_
  rw [part_ofAttributes, part_ofAttributes, same]

end RangeRequest

namespace StandardAttribute

/-- An attribute for a part of a range writes the number that it reads. -/
theorem range_of_writeRange
    {write : Float32 → RangeRequest → RangeRequest}
    {raw : String}
    {before after : Blueprint}
    (ran :
      (BuildingRule.setting .range AttributeValue.readNumber (writeRange write)).apply raw before =
        .ok after) :
    ∃ number,
      RangeRequest.readNumber? raw = some number ∧ after.range = write number before.range := by
  obtain ⟨number, isRead, rfl⟩ := BuildingRule.setting_eq_ok ran
  refine ⟨number, ?_, rfl⟩
  rw [RangeRequest.readNumber?, isRead]
  rfl

/-- Of the attributes of blueprints that a widget with a range has, each is for one part of the
range, which it writes, or for none. -/
theorem range_of_mem_building :
    ∀ entry ∈ building, entry.2.feature ∈ [Feature.base, Feature.range, Feature.aligned] →
      ∃ part : Option RangePart,
        (∀ name ∈ entry.1, RangePart.ofAttribute? name = part) ∧
          ∀ raw before after, entry.2.apply raw before = .ok after →
            after.range =
              match part with
              | some part => before.range.write (RangeRequest.readNumber? raw) part
              | none => before.range := by
  simp only [building, List.forall_mem_cons, List.mem_nil_iff, false_implies, implies_true,
    and_true]
  refine ⟨?style, ?text, ?vertical, ?horizontal, ?least, ?greatest, ?step, ?value⟩
  case text =>
    intro isOther
    simp [BuildingRule.setting] at isOther
  case least =>
    refine fun _ => ⟨some .least, by decide +kernel, fun raw before after ran => ?_⟩
    obtain ⟨number, isRead, written⟩ := range_of_writeRange ran
    rw [written, isRead]
    rfl
  case greatest =>
    refine fun _ => ⟨some .greatest, by decide +kernel, fun raw before after ran => ?_⟩
    obtain ⟨number, isRead, written⟩ := range_of_writeRange ran
    rw [written, isRead]
    rfl
  case step =>
    refine fun _ => ⟨some .step, by decide +kernel, fun raw before after ran => ?_⟩
    obtain ⟨number, isRead, written⟩ := range_of_writeRange ran
    rw [written, isRead]
    rfl
  case value =>
    refine fun _ => ⟨some .value, by decide +kernel, fun raw before after ran => ?_⟩
    obtain ⟨number, isRead, written⟩ := range_of_writeRange ran
    rw [written, isRead]
    rfl
  all_goals
    refine fun _ => ⟨none, by decide +kernel, fun raw before after ran => ?_⟩
    obtain ⟨_, _, rfl⟩ := BuildingRule.setting_eq_ok ran
    rfl

end StandardAttribute

namespace Vocabulary

/-- The features of the widgets with a range. -/
def rangeFeatures : List Feature :=
  [.base, .range, .aligned]

/-- An attribute of blueprints writes its part of the range. -/
theorem range_of_building?_standard
    {entry : Attribute}
    {rule : BuildingRule}
    {before after : Blueprint}
    (found : standard.building? entry.name rangeFeatures = some rule)
    (ran : rule.apply entry.value before = .ok after) :
    after.range = before.range.written entry := by
  obtain ⟨member, declared, listed, named, rfl⟩ := exists_of_building?_standard found
  obtain ⟨part, isPart, writes⟩ := StandardAttribute.range_of_mem_building declared listed member
  rw [writes _ _ _ ran, RangeRequest.written, RangePart.ofAttribute?_of_lists isPart named]

/-- An attribute that is none of blueprints is for no part of a range. -/
theorem ofAttribute?_of_building?_standard
    {name : String}
    (unknown : standard.building? name rangeFeatures = none) :
    RangePart.ofAttribute? name = none := by
  have known (part : RangePart) :
      ∀ name ∈ part.attributeNames, (standard.building? name rangeFeatures).isSome := by
    cases part <;> decide +kernel
  cases isPart : RangePart.ofAttribute? name with
  | none =>
      rfl
  | some part =>
      obtain ⟨other, member, same⟩ := List.any_eq_true.1 (RangePart.lists_of_ofAttribute? isPart)
      have isKnown := known part other member
      rw [building?_congr (Text.sameName_iff.1 same), unknown] at isKnown
      cases isKnown

end Vocabulary

/-- The range in the blueprint of a widget that has one is asked for by its attributes. -/
theorem BlueprintEffects.range
    {inTable : Bool}
    {attributes : List Attribute}
    {before after : Blueprint}
    (effects :
      BlueprintEffects
        (SplitAttributes.ofAttributes .standard Vocabulary.rangeFeatures inTable
          attributes).building
        before after) :
    after.range = attributes.foldl RangeRequest.written before.range := by
  induction attributes generalizing before with
  | nil =>
      cases effects
      rfl
  | cons entry rest inductionHypothesis =>
      rw [List.foldl_cons]
      unfold SplitAttributes.ofAttributes at effects
      cases found : Vocabulary.standard.building? entry.name Vocabulary.rangeFeatures with
      | some rule =>
          simp only [found] at effects
          cases effects with
          | writes first others =>
              rw [inductionHypothesis others, Vocabulary.range_of_building?_standard found first]
      | none =>
          have keeps : before.range.written entry = before.range := by
            rw [RangeRequest.written, Vocabulary.ofAttribute?_of_building?_standard found]
          rw [keeps]
          simp only [found] at effects
          split at effects <;> exact inductionHypothesis effects

end WidgetMarkup
