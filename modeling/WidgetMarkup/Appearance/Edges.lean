namespace WidgetMarkup

/-!
# Edges

Distances on the four sides of a box.
-/

/-- The distances on the four sides. -/
structure Edges where
  top : Float32 := 0.0
  right : Float32 := 0.0
  bottom : Float32 := 0.0
  left : Float32 := 0.0
deriving Repr, BEq, Inhabited

namespace Edges

/-- The same distance on every side. -/
def all (distance : Float32) : Edges :=
  ⟨distance, distance, distance, distance⟩

/-- Whether every distance is zero. -/
def isZero (edges : Edges) : Bool :=
  edges == {}

end Edges

end WidgetMarkup
