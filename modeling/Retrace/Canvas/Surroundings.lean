import Retrace.Canvas.Draw

/-!
The page around the canvas: what it offers, and what happens to it.
-/

namespace Retrace

/-- What the canvas finds around it. -/
structure Surroundings where
  /-- There is a window. -/
  window : Bool
  /-- The canvas element can be reached. -/
  mounted : Bool
  /-- The canvas element offers a drawing context. -/
  drawable : Bool
  /-- The inner width and height of the window, as far as they are numbers. -/
  inner : Option Float × Option Float
  /-- The size of the element around the canvas, if there is one. -/
  parent : Option (Float × Float)
  /-- The left and the top edge of the canvas in the window. -/
  corner : Float × Float

namespace Surroundings

/-- The inner size of the window. -/
def windowSize? (env : Surroundings) : Option (Float × Float) :=
  match env.inner with
  | (some width, some height) => some (width, height)
  | _ => none

/-- Where a point of the window lies on the canvas, if the canvas can be reached. -/
def onCanvas? (env : Surroundings) (x y : Float) : Option (Float × Float) :=
  if env.mounted then some (x - env.corner.1, y - env.corner.2) else none

end Surroundings

/-- What happens to the page. -/
inductive Effect where
  | canvasWidth (width : UInt32)
  | canvasHeight (height : UInt32)
  /-- The browser does not scroll. -/
  | preventDefault
  | scrollIntoView (id : String)
  | draw (d : Draw)
  deriving DecidableEq

/-- The written form of an effect. -/
def Effect.render : Effect → String
  | .canvasWidth width => s!"canvas.width {width}"
  | .canvasHeight height => s!"canvas.height {height}"
  | .preventDefault => "preventDefault"
  | .scrollIntoView id => s!"scrollIntoView {id} false"
  | .draw d => d.render

/-- The effects of giving the canvas a size in whole pixels. -/
def sizeEffects (width height : Float) : List Effect :=
  [.canvasWidth width.toUInt32, .canvasHeight height.toUInt32]

end Retrace
