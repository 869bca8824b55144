import WidgetMarkup.AttributeValue
import WidgetMarkup.Proofs.Text.Lines

namespace WidgetMarkup

/-!
# Lists with separators

A list is written as its items with a separator between each two. What is read from such a text are
the items again, blanks around them left out. The only list that cannot be written so is that of one
empty item: it looks like the list of no items. No text is read as that list.
-/

namespace Text

variable {separator : Char} {items : List String}

/-- Splitting at a separator is the splitting of the library. -/
theorem splitCharacters_eq_splitOn
    (separator : Char)
    (characters : List Char) :
    splitCharacters (· == separator) characters = characters.splitOn separator := by
  rw [splitCharacters_eq_splitOnP, List.splitOn_eq_splitOnP]

theorem toList_join
    (separator : Char)
    (items : List String) :
    (join (String.singleton separator) items).toList =
      [separator].intercalate (items.map String.toList) := by
  rw [join, String.toList_intercalate, String.toList_singleton]

/-- What separators separate is given back, if there is anything. -/
theorem split_join
    (areWhole : ∀ item ∈ items, separator ∉ item.toList)
    (nonempty : items ≠ []) :
    split separator (join (String.singleton separator) items) = items := by
  have cut :
      ([separator].intercalate (items.map String.toList)).splitOn separator =
        items.map String.toList :=
    List.splitOn_intercalate separator (by simpa using areWhole) (by simpa using nonempty)
  rw [split, splitCharacters_eq_splitOn, toList_join, cut]
  simp [Function.comp_def]

/-- The pieces of a text with the separators between them are the text. -/
theorem join_split
    (separator : Char)
    (text : String) :
    join (String.singleton separator) (split separator text) = text := by
  apply String.toList_inj.mp
  rw [toList_join, split, splitCharacters_eq_splitOn, List.map_map]
  simp [Function.comp_def, List.intercalate_splitOn]

/-- There is one piece more than there are separators. -/
theorem length_split
    (separator : Char)
    (text : String) :
    (split separator text).length = text.toList.count separator + 1 := by
  rw [split, List.length_map, splitCharacters_eq_splitOnP]
  induction text.toList with
  | nil =>
      rfl
  | cons first rest inductionHypothesis =>
      rw [List.splitOnP_cons_eq_if_modifyHead, List.count_cons]
      split
      · rw [List.length_cons, inductionHypothesis]
      · rw [List.length_modifyHead, inductionHypothesis, Nat.add_zero]

theorem not_mem_of_mem_split
    {text piece : String}
    (member : piece ∈ split separator text) :
    separator ∉ piece.toList := by
  obtain ⟨characters, isPiece, rfl⟩ := List.mem_map.mp member
  rw [splitCharacters_eq_splitOnP] at isPiece
  rw [String.toList_ofList]
  intro isThere
  simpa using not_separator_of_mem_splitOnP isPiece separator isThere

/-- A list is blank as a text if all items and separators are, and one item needs no separator. -/
theorem isBlankText_join_iff :
    isBlankText (join (String.singleton separator) items) = true ↔
      (∀ item ∈ items, isBlankText item = true) ∧
        (1 < items.length → isBlank separator = true) := by
  induction items with
  | nil =>
      simp [isBlankText, toList_join]
  | cons first rest inductionHypothesis =>
      cases rest with
      | nil =>
          simp [isBlankText, toList_join]
      | cons second others =>
          have separated :
              isBlankText (join (String.singleton separator) (first :: second :: others)) = true ↔
                isBlankText first = true ∧ isBlank separator = true ∧
                  isBlankText (join (String.singleton separator) (second :: others)) = true := by
            simp [isBlankText, toList_join, List.intercalate_cons_cons]
          rw [separated, inductionHypothesis, List.forall_mem_cons]
          simp only [List.length_cons]
          grind

theorem isBlankText_trim
    (text : String) :
    isBlankText (trim text) = isBlankText text := by
  rw [Bool.eq_iff_iff, ← trim_isEmpty_iff, trim_trim, trim_isEmpty_iff]

end Text

namespace AttributeValue

variable {separator : Char} {list : List String} {raw : String}

/-- What can stand between separators: a text without them, and without blanks around it. -/
structure IsItem (separator : Char) (item : String) : Prop where
  trimmed :
    Text.trim item = item
  whole :
    separator ∉ item.toList

theorem items_of_blank
    (isBlank : Text.isBlankText raw = true) :
    items separator raw = [] :=
  if_pos isBlank

theorem items_of_not_blank
    (notBlank : Text.isBlankText raw = false) :
    items separator raw = (Text.split separator raw).map Text.trim :=
  if_neg (by rw [notBlank]; exact Bool.false_ne_true)

theorem isItem_of_mem_items
    {item : String}
    (member : item ∈ items separator raw) :
    IsItem separator item := by
  cases isBlank : Text.isBlankText raw with
  | true =>
      rw [items_of_blank isBlank] at member
      cases member
  | false =>
      rw [items_of_not_blank isBlank] at member
      obtain ⟨piece, isPiece, rfl⟩ := List.mem_map.mp member
      refine ⟨Text.trim_trim piece, fun isThere => Text.not_mem_of_mem_split isPiece ?_⟩
      rw [Text.trim, String.toList_ofList] at isThere
      exact (Text.trimCharacters_sublist piece.toList).subset isThere

theorem length_items
    (notBlank : Text.isBlankText raw = false) :
    (items separator raw).length = raw.toList.count separator + 1 := by
  rw [items_of_not_blank notBlank, List.length_map, Text.length_split]

theorem items_eq_nil_iff :
    items separator raw = [] ↔ Text.isBlankText raw = true := by
  refine ⟨fun noItems => ?_, items_of_blank⟩
  by_contra notBlank
  have counted : (items separator raw).length = raw.toList.count separator + 1 :=
    length_items (Bool.eq_false_iff.mpr notBlank)
  rw [noItems, List.length_nil] at counted
  omega

/-- A text that is read as one item is the item with blanks around it, and not a blank one. -/
theorem items_ne_singleton_empty :
    items separator raw ≠ [""] := by
  intro isEmptyItem
  cases isBlank : Text.isBlankText raw with
  | true =>
      rw [items_of_blank isBlank] at isEmptyItem
      cases isEmptyItem
  | false =>
      rw [items_of_not_blank isBlank, List.map_eq_singleton_iff] at isEmptyItem
      obtain ⟨piece, isOnly, isEmpty⟩ := isEmptyItem
      have isWhole : piece = raw := by
        rw [← Text.join_split separator raw, isOnly]
        rfl
      rw [isWhole] at isEmpty
      have blank := (Text.trim_isEmpty_iff raw).mp (by rw [isEmpty]; rfl)
      rw [isBlank] at blank
      cases blank

/-- Items with separators between them are read as these items, unless the text is blank. -/
theorem items_join
    (areItems : ∀ item ∈ list, IsItem separator item)
    (emptyIfBlank :
      Text.isBlankText (Text.join (String.singleton separator) list) = true → list = []) :
    items separator (Text.join (String.singleton separator) list) = list := by
  by_cases isEmpty : list = []
  · subst isEmpty
    exact items_of_blank rfl
  · rw [items_of_not_blank (Bool.eq_false_iff.mpr (mt emptyIfBlank isEmpty)),
      Text.split_join (fun item member => (areItems item member).whole) isEmpty,
      List.map_congr_left fun item member => (areItems item member).trimmed, List.map_id']

/-- Leaving out blanks around the items does not make a text blank. -/
theorem isBlankText_join_items :
    Text.isBlankText (Text.join (String.singleton separator) (items separator raw)) =
      Text.isBlankText raw := by
  cases isBlank : Text.isBlankText raw with
  | true =>
      rw [items_of_blank isBlank]
      rfl
  | false =>
      rw [items_of_not_blank isBlank, ← isBlank, Bool.eq_iff_iff]
      conv_rhs => rw [← Text.join_split separator raw]
      rw [Text.isBlankText_join_iff, Text.isBlankText_join_iff, List.forall_mem_map,
        List.length_map]
      simp only [Text.isBlankText_trim]

/--
A list whose items are trimmed and hold no separator is read from its text, unless it is the list of
one empty item; separators must not be blank for this. Every text is read as a list of such items:
as no items exactly if it is blank, and else as one more than it has separators. The list of one
empty item is read from no text, so that every list that is read is read again from its own text.
-/
theorem items_of_joined
    (separator : Char) :
    (Text.isBlank separator = false →
      ∀ list : List String,
        (∀ item ∈ list, IsItem separator item) →
          list ≠ [""] →
            items separator (Text.join (String.singleton separator) list) = list) ∧
    ∀ raw : String,
      (∀ item ∈ items separator raw, IsItem separator item) ∧
      (items separator raw = [] ↔ Text.isBlankText raw = true) ∧
      (Text.isBlankText raw = false →
        (items separator raw).length = raw.toList.count separator + 1) ∧
      items separator raw ≠ [""] ∧
      items separator (Text.join (String.singleton separator) (items separator raw)) =
        items separator raw := by
  constructor
  · intro notBlank list areItems notEmptyItem
    refine items_join areItems fun isBlank => ?_
    obtain ⟨areBlank, separatorIsBlank⟩ := Text.isBlankText_join_iff.mp isBlank
    match list with
    | [] => rfl
    | [item] =>
        have isEmpty := (Text.trim_isEmpty_iff item).mpr (areBlank item List.mem_cons_self)
        rw [(areItems item List.mem_cons_self).trimmed, String.isEmpty_iff] at isEmpty
        exact absurd (congrArg ([·]) isEmpty) notEmptyItem
    | first :: second :: others =>
        rw [notBlank] at separatorIsBlank
        exact absurd (separatorIsBlank (by simp)) Bool.false_ne_true
  · intro raw
    refine ⟨fun item => isItem_of_mem_items, items_eq_nil_iff, length_items,
      items_ne_singleton_empty, items_join (fun item => isItem_of_mem_items) fun isBlank => ?_⟩
    rwa [isBlankText_join_items, ← items_eq_nil_iff] at isBlank

/-- Empty items at the ends and in between are kept, and blanks around items are not. -/
theorem items_of_joined_empty :
    items ';' (Text.join ";" ["", "a b", "", "c", ""]) = ["", "a b", "", "c", ""] ∧
      (items ';' " ; a b;\t; c;").length = 5 ∧
        items ';' (Text.join ";" (items ';' " ; a b;\t; c;")) = items ';' " ; a b;\t; c;" := by
  obtain ⟨ofList, ofText⟩ := items_of_joined ';'
  have areItems : ∀ item ∈ ["", "a b", "", "c", ""], IsItem ';' item := by
    simp only [List.forall_mem_cons, List.not_mem_nil, false_imp_iff, implies_true, and_true]
    refine ⟨⟨?_, ?_⟩, ⟨?_, ?_⟩, ⟨?_, ?_⟩, ⟨?_, ?_⟩, ⟨?_, ?_⟩⟩ <;> decide
  obtain ⟨-, -, counted, -, again⟩ := ofText " ; a b;\t; c;"
  exact ⟨ofList (by decide) _ areItems (by decide), counted (by decide), again⟩

end AttributeValue

end WidgetMarkup
