import Retrace.Replay.Visual
import Retrace.Scene.Hover

/-!
Gestures on the scene.

A press on a particle starts to drag it, a press beside all of them to move the plane; the wheel
zooms around the pointer.  A particle that has been dragged stays where it is put.

* `Board.press`, `Board.move`, `Board.release`, `Board.leave`, `Board.zoom`: one gesture each.
-/

namespace Retrace

/-- A particle under the pointer, and where both were when the drag began. -/
structure Drag where
  node : Nat
  startX : Float
  startY : Float
  nodeX : Float32
  nodeY : Float32

/-- A moving plane: where the pointer and the plane were when it began. -/
structure Pan where
  startX : Float
  startY : Float
  planeX : Float
  planeY : Float

/-- A scene with the gestures that are under way. -/
structure Board where
  scene : Scene
  drag : Option Drag
  pan : Option Pan

namespace Board

/-- A scene that nothing is done to. -/
def ofScene (s : Scene) : Board := ⟨s, none, none⟩

/-- The shown particle under a point of the screen. -/
def shownAt (b : Board) (v : Visual) (x y : Float) : Option Nat :=
  b.scene.particleAt x y v.showsNode

/-- The pointer is pressed. -/
def press (b : Board) (v : Visual) (x y : Float) : Board :=
  match b.shownAt v x y with
  | some i =>
    match b.scene.particles[i]? with
    | some p => { b with drag := some ⟨i, x, y, p.body.x, p.body.y⟩ }
    | none => b
  | none => { b with pan := some ⟨x, y, b.scene.transform.x, b.scene.transform.y⟩ }

/-- The dragged particle follows the pointer and is anchored. -/
def follow (s : Scene) (d : Drag) (x y : Float) : Scene :=
  let dx := (x - d.startX) / s.transform.k
  let dy := (y - d.startY) / s.transform.k
  s.changeBody d.node fun body =>
    { body with
      x := d.nodeX + Precision.narrow dx
      y := d.nodeY + Precision.narrow dy
      anchored := true }

/-- The plane follows the pointer. -/
def slide (s : Scene) (p : Pan) (x y : Float) : Scene :=
  { s with transform :=
    { s.transform with x := p.planeX + (x - p.startX), y := p.planeY + (y - p.startY) } }

/-- The pointer moves: the dragged particle follows; without one the focus is set anew and the
plane follows, if it moves. -/
def move (b : Board) (v : Visual) (x y : Float) : Board :=
  let s := { b.scene with hover := { b.scene.hover with pointer := (x, y) } }
  match b.drag with
  | some d => { b with scene := follow s d x y }
  | none =>
    let s := s.setHover (s.particleAt x y v.showsNode)
    match b.pan with
    | some p => { b with scene := slide s p x y }
    | none => { b with scene := s }

/-- The pointer is released. -/
def release (b : Board) : Board := { b with drag := none, pan := none }

/-- The pointer leaves the canvas. -/
def leave (b : Board) : Board :=
  { b with drag := none, pan := none, scene := b.scene.setHover none }

/-- The least zoom. -/
def minZoom : Float := 0.1

/-- The greatest zoom. -/
def maxZoom : Float := 10

/-- A zoom between the least and the greatest one. -/
def clampZoom (k : Float) : Float :=
  if k < minZoom then minZoom else if k > maxZoom then maxZoom else k

/-- The wheel turns: the plane is scaled, and the point under the pointer stays. -/
def zoom (b : Board) (x y delta : Float) : Board :=
  let t := b.scene.transform
  let factor := if delta > 0 then 0.9 else 1.1
  let k := clampZoom (t.k * factor)
  let ratio := k / t.k
  { b with scene :=
    { b.scene with transform := ⟨x - (x - t.x) * ratio, y - (y - t.y) * ratio, k⟩ } }

end Board

end Retrace
