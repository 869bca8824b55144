import Mathlib.Algebra.Group.Nat.Defs
import Mathlib.Data.List.Forall2
import Mathlib.Data.List.Lex
import WidgetMarkup.Proofs.Vocabulary.ScopedScripts

namespace WidgetMarkup

open Markup

/-!
# The combinations of nested loops

A nested loop numbers its combinations and takes each number apart again. The numbers in their
order are the vectors of indices in lexicographic order: every vector once, the index of the first
list turning slowest.
-/

namespace StandardMacro

/-- The vectors with an index below each size, the first index turning slowest. -/
def indexVectors : List Nat → List (List Nat)
  | [] => [[]]
  | size :: sizes => (List.range size).flatMap fun index => (indexVectors sizes).map (index :: ·)

/-- What an index for each list binds, list after list. -/
def vectorBindings (lists : List NamedItems) (vector : List Nat) : List (String × String) :=
  (lists.zip vector).flatMap fun chosen => itemBindings chosen.1 chosen.2

/-- The sizes of lists. -/
def sizesOf (lists : List NamedItems) : List Nat :=
  lists.map fun list => list.items.size

/-- Whether an iteration over a list binds a name: it is the one of the list or of its index. -/
def NamedItems.Binds (list : NamedItems) (name : String) : Prop :=
  name = list.name ∨ name = list.name ++ ":index"

/--
What the iteration of a vector sees: the item and the index of each list, unless a later list binds
the same name, and the bindings around it.
-/
structure SeesVector
    (lists : List NamedItems)
    (vector : List Nat)
    (outer inner : Scope) :
    Prop where
  fresh :
    inner.parent? = some outer
  item :
    ∀ (place : Nat) (list : NamedItems) (index : Nat),
      lists[place]? = some list → vector[place]? = some index →
        (∀ other ∈ lists.drop (place + 1), ¬ other.Binds list.name) →
          inner.get? list.name = list.items[index]?
  index :
    ∀ (place : Nat) (list : NamedItems) (index : Nat),
      lists[place]? = some list → vector[place]? = some index →
        (∀ other ∈ lists.drop (place + 1), ¬ other.Binds (list.name ++ ":index")) →
          inner.get? (list.name ++ ":index") = some (toString index)
  others :
    ∀ name, (∀ list ∈ lists, ¬ list.Binds name) → inner.get? name = outer.get? name

theorem vectorBindings_cons
    (list : NamedItems)
    (lists : List NamedItems)
    (index : Nat)
    (vector : List Nat) :
    vectorBindings (list :: lists) (index :: vector) =
      itemBindings list index ++ vectorBindings lists vector := by
  rw [vectorBindings, List.zip_cons_cons, List.flatMap_cons, vectorBindings]

/-- There are as many vectors as the product of the sizes. -/
theorem length_indexVectors
    (sizes : List Nat) :
    (indexVectors sizes).length = sizes.prod := by
  induction sizes with
  | nil =>
      rfl
  | cons size sizes inductionHypothesis =>
      simp [indexVectors, List.length_flatMap, inductionHypothesis]

/-- The vectors are exactly those with an index below each size. -/
theorem mem_indexVectors
    {sizes vector : List Nat} :
    vector ∈ indexVectors sizes ↔ List.Forall₂ (· < ·) vector sizes := by
  induction sizes generalizing vector with
  | nil =>
      simp [indexVectors]
  | cons size sizes inductionHypothesis =>
      simp only [indexVectors, List.mem_flatMap, List.mem_range, List.mem_map,
        inductionHypothesis, List.forall₂_cons_right_iff]
      constructor
      · rintro ⟨index, below, rest, restBelow, rfl⟩
        exact ⟨index, rest, below, restBelow, rfl⟩
      · rintro ⟨index, rest, below, restBelow, rfl⟩
        exact ⟨index, below, rest, restBelow, rfl⟩

/-- The vectors stand in lexicographic order. -/
theorem pairwise_indexVectors
    (sizes : List Nat) :
    (indexVectors sizes).Pairwise (List.Lex (· < ·)) := by
  induction sizes with
  | nil =>
      exact List.pairwise_singleton _ _
  | cons size sizes inductionHypothesis =>
      refine List.pairwise_flatMap.2 ⟨fun index _ => ?same, ?earlier⟩
      case same =>
        exact inductionHypothesis.map _ fun _ _ less => .cons less
      case earlier =>
        refine List.pairwise_lt_range.imp fun less vector member vector' member' => ?_
        obtain ⟨rest, _, rfl⟩ := List.mem_map.1 member
        obtain ⟨rest', _, rfl⟩ := List.mem_map.1 member'
        exact .rel less

/-- No vector stands there twice. -/
theorem nodup_indexVectors
    (sizes : List Nat) :
    (indexVectors sizes).Nodup :=
  (pairwise_indexVectors sizes).imp fun less same => by
    subst same
    exact List.lex_irrefl Nat.lt_irrefl _ less

/-- Where there is nothing to choose from, there is no vector. -/
theorem indexVectors_eq_nil
    {sizes : List Nat}
    (empty : 0 ∈ sizes) :
    indexVectors sizes = [] := by
  induction sizes with
  | nil =>
      cases empty
  | cons size sizes inductionHypothesis =>
      rcases List.mem_cons.1 empty with rfl | later
      · rfl
      · rw [indexVectors, inductionHypothesis later]
        exact List.flatMap_eq_nil_iff.2 fun _ _ => rfl

/-- The numbers below a product come in blocks of the same length. -/
theorem range_mul
    (blocks length : Nat) :
    List.range (blocks * length) =
      (List.range blocks).flatMap fun block =>
        (List.range length).map fun offset => block * length + offset := by
  induction blocks with
  | zero =>
      rw [Nat.zero_mul]
      rfl
  | succ blocks inductionHypothesis =>
      rw [Nat.succ_mul, List.range_add, inductionHypothesis, List.range_succ,
        List.flatMap_append, List.flatMap_singleton]

/-- A number in a block is taken apart into the block and the place in it. -/
theorem combinationBindings_cons
    (list : NamedItems)
    {rest : List NamedItems}
    {offset : Nat}
    (block : Nat)
    (below : offset < combinations rest) :
    combinationBindings (list :: rest) (block * combinations rest + offset) =
      itemBindings list block ++ combinationBindings rest offset := by
  have positive : 0 < combinations rest := Nat.zero_lt_of_lt below
  have quotient : (block * combinations rest + offset) / combinations rest = block := by
    rw [Nat.mul_comm, Nat.mul_add_div positive, Nat.div_eq_of_lt below, Nat.add_zero]
  have remainder : (block * combinations rest + offset) % combinations rest = offset := by
    rw [Nat.mul_comm, Nat.mul_add_mod, Nat.mod_eq_of_lt below]
  rw [combinationBindings, quotient, remainder]

/-- What the combinations bind, one after another, is what the vectors bind. -/
theorem map_combinationBindings
    (lists : List NamedItems) :
    (List.range (combinations lists)).map (combinationBindings lists) =
      (indexVectors (sizesOf lists)).map (vectorBindings lists) := by
  induction lists with
  | nil =>
      rfl
  | cons list rest inductionHypothesis =>
      rw [combinations, range_mul, List.map_flatMap, sizesOf, List.map_cons, indexVectors,
        List.map_flatMap, ← sizesOf]
      refine congrArg (List.flatMap · _) (funext fun block => ?_)
      calc
        ((List.range (combinations rest)).map fun offset =>
              block * combinations rest + offset).map (combinationBindings (list :: rest))
        _ = (List.range (combinations rest)).map fun offset =>
              itemBindings list block ++ combinationBindings rest offset := by
          rw [List.map_map]
          exact List.map_congr_left fun offset member =>
            combinationBindings_cons list block (List.mem_range.1 member)
        _ = ((List.range (combinations rest)).map (combinationBindings rest)).map
              (itemBindings list block ++ ·) := by
          rw [List.map_map]
          rfl
        _ = ((indexVectors (sizesOf rest)).map (vectorBindings rest)).map
              (itemBindings list block ++ ·) := by
          rw [inductionHypothesis]
        _ = ((indexVectors (sizesOf rest)).map (block :: ·)).map
              (vectorBindings (list :: rest)) := by
          rw [List.map_map, List.map_map]
          exact List.map_congr_left fun vector _ =>
            (vectorBindings_cons list rest block vector).symm

/-- An iteration binds the names of its lists and of their indices. -/
theorem becomes_vectorBindings
    (lists : List NamedItems)
    (vector : List Nat)
    (scope : Scope) :
    scope.Becomes (fun name => ∃ list ∈ lists, list.Binds name)
      (scope.bindAll (vectorBindings lists vector)) := by
  refine ⟨_, rfl, fun binding member => ?_⟩
  obtain ⟨⟨list, index⟩, chosen, bound⟩ := List.mem_flatMap.1 member
  refine ⟨list, (List.of_mem_zip chosen).1, ?_⟩
  simp only [itemBindings, List.mem_cons, List.not_mem_nil, or_false] at bound
  rcases bound with rfl | rfl
  · exact .inl rfl
  · exact .inr rfl

/-- What the last list that binds a name binds it to is what it is bound to. -/
theorem exists_get?_bindAll_vectorBindings
    {lists : List NamedItems}
    {vector : List Nat}
    {place : Nat}
    {list : NamedItems}
    {index : Nat}
    {name : String}
    (scope : Scope)
    (isList : lists[place]? = some list)
    (chosen : vector[place]? = some index)
    (last : ∀ other ∈ lists.drop (place + 1), ¬ other.Binds name) :
    ∃ before : Scope,
      (scope.bindAll (vectorBindings lists vector)).get? name =
        (before.bindAll (itemBindings list index)).get? name := by
  induction lists generalizing vector place scope with
  | nil =>
      cases isList
  | cons first rest inductionHypothesis =>
      cases vector with
      | nil =>
          cases chosen
      | cons head vector =>
          have inTurn :
              scope.bindAll (vectorBindings (first :: rest) (head :: vector)) =
                (scope.bindAll (itemBindings first head)).bindAll (vectorBindings rest vector) := by
            rw [vectorBindings_cons]
            exact List.foldl_append
          rw [inTurn]
          cases place with
          | zero =>
              cases isList
              cases chosen
              exact ⟨scope, (becomes_vectorBindings rest vector _).get?_eq (by simpa using last)⟩
          | succ place =>
              exact inductionHypothesis _ isList chosen last

/-- A vector chooses an item that its list has. -/
theorem lt_size_of_mem_indexVectors
    {lists : List NamedItems}
    {vector : List Nat}
    {place : Nat}
    {list : NamedItems}
    {index : Nat}
    (member : vector ∈ indexVectors (sizesOf lists))
    (isList : lists[place]? = some list)
    (chosen : vector[place]? = some index) :
    index < list.items.size := by
  obtain ⟨listed, rfl⟩ := List.getElem?_eq_some_iff.1 isList
  obtain ⟨inVector, rfl⟩ := List.getElem?_eq_some_iff.1 chosen
  have below := (mem_indexVectors.1 member).get inVector (by simpa [sizesOf] using listed)
  simpa [sizesOf] using below

/-- The iteration of a vector sees the items and the indices of the vector. -/
theorem seesVector_bindAll
    {lists : List NamedItems}
    {vector : List Nat}
    (scope : Scope)
    (member : vector ∈ indexVectors (sizesOf lists)) :
    SeesVector lists vector scope (scope.child.bindAll (vectorBindings lists vector)) where
  fresh := by
    rw [Scope.parent?, (becomes_vectorBindings lists vector scope.child).enclosing_eq]
    rfl
  item place list index isList chosen last := by
    obtain ⟨before, same⟩ :=
      exists_get?_bindAll_vectorBindings scope.child isList chosen last
    have below := lt_size_of_mem_indexVectors member isList chosen
    have distinct : list.name ≠ list.name ++ ":index" := by
      simp [String.ext_iff]
    calc
      (scope.child.bindAll (vectorBindings lists vector)).get? list.name
      _ = ((before.bind list.name (list.items.getD index "")).bind (list.name ++ ":index")
            (toString index)).get? list.name := same
      _ = some (list.items.getD index "") := by
        rw [Scope.get?_bind, if_neg distinct, Scope.get?_bind, if_pos rfl]
      _ = list.items[index]? := by
        rw [Array.getD_eq_getD_getElem?, Array.getElem?_eq_getElem below, Option.getD_some]
  index place list index isList chosen last := by
    obtain ⟨before, same⟩ :=
      exists_get?_bindAll_vectorBindings scope.child isList chosen last
    rw [same]
    exact (Scope.get?_bind _ _ _ _).trans (if_pos rfl)
  others name unbound := by
    rw [(becomes_vectorBindings lists vector _).get?_eq (by simpa using unbound),
      Scope.get?_child]

end StandardMacro

end WidgetMarkup
