import Retrace.Canvas.Gesture
import Retrace.Canvas.Paint
import Retrace.Canvas.Surroundings
import Retrace.Log

/-!
The canvas that shows the graph.

When it is mounted the canvas takes its size, sets the scene up and asks for animation frames; on a
page that lacks what this needs it stays empty.  Each frame lets the simulation go on, paints the
scene and asks for the next one.

* `Canvas.mount`: the canvas on a page;
* `Canvas.handle`: a gesture; `Canvas.frames`: frames; `Canvas.windowResized`: a window of a new
  size.
-/

namespace Retrace

/-- How the canvas is to be set up. -/
structure CanvasOptions where
  showEdgeLabels : Bool := true
  /-- The canvas takes the size of the window. -/
  fullscreen : Bool := false
  width : Option Float := none
  height : Option Float := none

/-- What the pointer does; coordinates are those of the window. -/
inductive Gesture where
  | press (x y : Float)
  | move (x y : Float)
  | release
  | leave
  | wheel (x y delta : Float)

namespace Gesture

/-- What a gesture does to the page, whatever becomes of it on the canvas. -/
def effects : Gesture → List Effect
  | .wheel _ _ _ => [.preventDefault]
  | .press _ _ | .move _ _ | .release | .leave => []

/-- Whether a gesture reaches for the scene.  A gesture at a point needs the canvas for that. -/
def reachesScene (env : Surroundings) : Gesture → Bool
  | .press x y | .move x y | .wheel x y _ => (env.onCanvas? x y).isSome
  | .release | .leave => true

end Gesture

/-- The canvas. -/
structure Canvas where
  /-- The scene, once there is one. -/
  board : Option Board
  /-- A frame has been asked for. -/
  framePending : Bool
  /-- The canvas follows the size of the window. -/
  followsWindow : Bool

namespace Canvas

/-- A canvas that shows nothing. -/
def empty : Canvas := ⟨none, false, false⟩

/-- The size of the canvas: that of the window, or the one asked for, or that of the element around
it. -/
def sizeOn (options : CanvasOptions) (env : Surroundings) : Float × Float :=
  if options.fullscreen then env.windowSize?.getD (800, 600)
  else
    let (width, height) := env.parent.getD (800, 600)
    (options.width.getD width, options.height.getD height)

/-- The canvas of a dataset on a page. -/
def mount (options : CanvasOptions) (env : Surroundings) (d : Dataset) :
    Canvas × List Effect × List LogLine :=
  if env.mounted && env.window then
    let (width, height) := sizeOn options env
    let effects := sizeEffects width height
    if env.drawable then
      let scene := Scene.ofDataset d width height options.showEdgeLabels
      (⟨some (.ofScene scene), true, options.fullscreen⟩, effects, [])
    else (empty, effects, [⟨.error, "2d canvas context unavailable"⟩])
  else (empty, [], [])

/-- Changes the board, if there is one. -/
def changeBoard (c : Canvas) (change : Board → Board) : Canvas :=
  { c with board := c.board.map change }

/-- Changes the board by a gesture at a point of the window, if that lies on the canvas. -/
def changeAt (c : Canvas) (env : Surroundings) (x y : Float)
    (change : Board → Float → Float → Board) : Canvas :=
  match env.onCanvas? x y with
  | some (x, y) => c.changeBoard fun b => change b x y
  | none => c

/-- A gesture. -/
def handle (c : Canvas) (env : Surroundings) (v : Visual) : Gesture → Canvas × List Effect
  | .press x y => (c.changeAt env x y fun b x y => b.press v x y, [])
  | .move x y => (c.changeAt env x y fun b x y => b.move v x y, [])
  | .release => (c.changeBoard Board.release, [])
  | .leave => (c.changeBoard Board.leave, [])
  | .wheel x y delta => (c.changeAt env x y fun b x y => b.zoom x y delta, [.preventDefault])

/-- The time between two frames. -/
def frameTime : Float32 := 0.016

/-- One frame of the board: time passes while the scene runs, and the scene is painted. -/
def boardFrame (b : Board) (v : Visual) : Except SimulationFault (Board × List Draw) :=
  if b.scene.running then
    match b.scene.tick frameTime with
    | .error f => .error f
    | .ok scene => .ok ({ b with scene }, scene.paint v)
  else .ok (b, b.scene.paint v)

/-- One frame, if it has been asked for. -/
def frame (c : Canvas) (env : Surroundings) (v : Visual) :
    Except SimulationFault (Canvas × List Effect) :=
  if !c.framePending then .ok (c, [])
  else
    match c.board with
    | none => .ok ({ c with framePending := env.window }, [])
    | some b =>
      match boardFrame b v with
      | .error f => .error f
      | .ok (b, draws) =>
        .ok ({ c with board := some b, framePending := env.window }, draws.map .draw)

/-- Several frames; the effects are those of the last one. -/
def frames (env : Surroundings) (v : Visual) : Nat → Canvas →
    Except SimulationFault (Canvas × List Effect)
  | 0, c => .ok (c, [])
  | 1, c => c.frame env v
  | n + 1, c =>
    match c.frame env v with
    | .error f => .error f
    | .ok (c, _) => frames env v n c

/-- The window has a new size. -/
def windowResized (c : Canvas) (env : Surroundings) : Canvas × List Effect :=
  if c.followsWindow && env.window then
    match env.windowSize? with
    | some (width, height) =>
      (c.changeBoard fun b => { b with scene := b.scene.resize width height },
        sizeEffects width height)
    | none => (c, [])
  else (c, [])

end Canvas

end Retrace
