import Retrace.Scene.Layering
import Retrace.Scene.Precision

/-!
The first places of the nodes.

Within a row the nodes are placed in step order around the centre: the first one on it, then
alternately to the left and to the right.  Columns and rows are counted in whole numbers; `Place.x`
and `Place.y` give the coordinates.
-/

namespace Retrace

/-- A place in the picture. -/
structure Place where
  column : Int
  row : Nat
  deriving DecidableEq, Repr

namespace Place

/-- The distance of two columns. -/
def siblingGap : Float := 60

/-- The distance of two rows. -/
def rowGap : Float := 70

/-- The horizontal coordinate. -/
def x (p : Place) : Float32 := Precision.narrow (Float.ofInt p.column * siblingGap)

/-- The vertical coordinate. -/
def y (p : Place) : Float32 := Precision.narrow (Float.ofNat p.row * rowGap)

/-- The column of the node with the given number of earlier nodes in its row. -/
def columnOf (earlier : Nat) : Int :=
  if earlier % 2 = 0 then (earlier / 2 : Nat) else -((earlier + 1) / 2 : Nat)

end Place

/-- The places of nodes in the given rows. -/
def placesIn (rows : List Nat) : List Place :=
  rows.zipIdx.map fun (row, i) => ⟨Place.columnOf ((rows.take i).count row), row⟩

/-- The first places of the nodes, in step order. -/
def Dataset.places (d : Dataset) : List Place := placesIn d.rows

end Retrace
