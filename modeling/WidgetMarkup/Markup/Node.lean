import WidgetMarkup.Markup.Token
import WidgetMarkup.Text.Blank
import WidgetMarkup.Text.Case

namespace WidgetMarkup.Markup

/-!
# Tags as trees

A node is a tag with its attributes as written, its text and the tags inside it. Nothing here
knows what a name means; that macros are marked is all that sets them apart.
-/

/-- A tag and everything inside it. -/
structure Node where
  /-- The name without the macro marker. -/
  name : String
  isMacro : Bool := false
  /-- The attributes in the order of the source. -/
  attributes : List Attribute := []
  /-- The tags directly inside, in the order of the source. -/
  children : List Node := []
  /-- The text directly inside, its lines trimmed and blank lines left out. -/
  text : String := ""
  /-- Where reading the opening tag began. -/
  position : Position := ⟨0, 0⟩
deriving Repr, Inhabited

namespace Attribute

/-- Whether an attribute has the given name, up to case. -/
def isNamed (entry : Attribute) (name : String) : Bool :=
  Text.sameName entry.name name

/-- The value of the first attribute with the given name. -/
def lookup? (name : String) (attributes : List Attribute) : Option String :=
  (attributes.find? fun entry => entry.isNamed name).map Attribute.value

/-- Whether any attribute has the given name. -/
def isPresent (name : String) (attributes : List Attribute) : Bool :=
  attributes.any fun entry => entry.isNamed name

end Attribute

namespace Node

mutual

/-- Decides whether two trees are the same. -/
def decideEq : (node node' : Node) → Decidable (node = node')
  | ⟨name, isMacro, attributes, children, text, position⟩,
    ⟨name', isMacro', attributes', children', text', position'⟩ =>
      match decideEqAll children children' with
      | isTrue sameChildren =>
          decidable_of_iff
            (name = name' ∧ isMacro = isMacro' ∧ attributes = attributes' ∧ text = text' ∧
              position = position')
            (by simp [sameChildren])
      | isFalse different => isFalse fun same => different (Node.mk.inj same).2.2.2.1

/-- Decides whether two forests are the same. -/
def decideEqAll : (nodes nodes' : List Node) → Decidable (nodes = nodes')
  | [], [] => isTrue rfl
  | [], _ :: _ => isFalse nofun
  | _ :: _, [] => isFalse nofun
  | node :: rest, node' :: rest' =>
      match decideEq node node', decideEqAll rest rest' with
      | isTrue sameNode, isTrue sameRest => isTrue (by rw [sameNode, sameRest])
      | isFalse different, _ => isFalse fun same => different (List.cons.inj same).1
      | _, isFalse different => isFalse fun same => different (List.cons.inj same).2

end

instance : DecidableEq Node :=
  decideEq

/-- The value of the first attribute with the given name. -/
def attribute? (node : Node) (name : String) : Option String :=
  Attribute.lookup? name node.attributes

/-- Whether the node has an attribute with the given name. -/
def hasAttribute (node : Node) (name : String) : Bool :=
  Attribute.isPresent name node.attributes

/-- Whether the node's text holds more than blanks. -/
def hasText (node : Node) : Bool :=
  !Text.isBlankText node.text

mutual

/-- The number of nodes in a tree. -/
def size : Node → Nat
  | ⟨_, _, _, children, _, _⟩ => 1 + sizeAll children

/-- The number of nodes in a forest. -/
def sizeAll : List Node → Nat
  | [] => 0
  | node :: rest => node.size + sizeAll rest

end

-- The zero of a sum is that of core, also where a library has a zero of its own.
attribute [local instance (high)] Zero.ofOfNat0

/-- The size of a forest is the sum of the sizes of its trees. -/
theorem sizeAll_eq_sum
    (nodes : List Node) :
    sizeAll nodes = (nodes.map size).sum := by
  induction nodes with
  | nil =>
      simp [sizeAll]
  | cons node rest inductionHypothesis =>
      simp [sizeAll, inductionHypothesis]

theorem sizeAll_append
    (first second : List Node) :
    sizeAll (first ++ second) = sizeAll first + sizeAll second := by
  simp only [sizeAll_eq_sum, List.map_append, List.sum_append_nat]

/-- The size of a node is one more than the size of what is inside it. -/
theorem size_eq
    (node : Node) :
    node.size = 1 + sizeAll node.children := by
  cases node
  simp [size]

/-- Whether a node is the marked macro tag that stands for inserted content. -/
def isMarkerNamed (node : Node) (marker : String) : Bool :=
  node.isMacro && Text.sameName node.name marker

mutual

/-- The node with every marker inside it replaced by the content. -/
def replaceInside (marker : String) (content : List Node) : Node → Node
  | ⟨name, isMacro, attributes, children, text, position⟩ =>
      ⟨name, isMacro, attributes, replaceMarkers marker content children, text, position⟩

/--
The forest with every marker replaced by the content, at any depth. The content is put in as it
is and not searched again; what stands inside a marker is dropped with it.
-/
def replaceMarkers (marker : String) (content : List Node) : List Node → List Node
  | [] => []
  | node :: rest =>
      if node.isMarkerNamed marker then
        content ++ replaceMarkers marker content rest
      else
        replaceInside marker content node :: replaceMarkers marker content rest

end

end Node

end WidgetMarkup.Markup
