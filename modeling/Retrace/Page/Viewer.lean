import Retrace.Canvas.Basic
import Retrace.Page.Browser
import Retrace.Page.Controls
import Retrace.Page.Listing

/-!
The viewer: the graph, the source listing and the controls over one report.

What the engine pushes goes onto a display, and everything on the page is read off the display.
Whenever the marked line has been set, also to the line that was marked before, the listing scrolls
to it.  A frame that fails stops the canvas and nothing else.

* `Display.take`: a push reaches the display; `Push.setsMark`: whether it sets the marked line;
* `Viewer.mount`: the viewer of a report;
* `Viewer.Turn`: what an event does to the viewer; `Viewer.act`: an action of the replay,
  `Viewer.pick`: another file, `Viewer.gesture`, `Viewer.frames`, `Viewer.windowResized`: what
  concerns the canvas;
* `Viewer.scrollAfter`: what the listing does about the pushes.
-/

namespace Retrace

/-- What the views show. -/
structure Display where
  visual : Visual
  markedLine : Option UInt32
  slider : Slider

namespace Display

/-- The views before anything has been pushed. -/
def blank : Display := ⟨.blank 0, none, ⟨0, 0, 0⟩⟩

/-- A push reaches the views. -/
def take (d : Display) : Push → Display
  | .apply visual => { d with visual }
  | .mark line => { d with markedLine := some line }
  | .clearMark => { d with markedLine := none }
  | .slider min max value => { d with slider := ⟨min, max, value⟩ }

end Display

/-- Whether a push sets the marked line, be it to what it was. -/
def Push.setsMark : Push → Bool
  | .mark _ | .clearMark => true
  | .apply _ | .slider _ _ _ => false

/-- The viewer of a report. -/
structure Viewer where
  engine : Engine
  display : Display
  listing : Listing
  /-- The canvas, or the fault of the frame that has stopped it. -/
  canvas : Except SimulationFault Canvas
  fullGraph : FullGraph

namespace Viewer

/-- Scrolls the marked line into view, if it has a row or another element of its name. -/
def scroll (b : Browser) (l : Listing) (marked : Option UInt32) : List Effect :=
  match marked with
  | none => []
  | some line =>
    let id := Listing.rowId line.toNat
    if b.reachable && (b.hasElement id || l.hasRow line.toNat) then [.scrollIntoView id] else []

/-- What the viewer says about its report. -/
def greeting (d : Dataset) (sources : List SourceFile) : LogLine :=
  ⟨.info, s!"replaying ARG with {d.nodes.length} nodes, {d.edges.length} edges, " ++
    s!"{sources.length} source files"⟩

/-- The viewer of a report, at the first step asked for.  The listing scrolls as soon as it is
there. -/
def mount (b : Browser) (r : Report) : Viewer × List Effect × List LogLine :=
  let fresh := Engine.ofGraph r.graph
  let first := fresh.act (.advanceTo r.settings.initialStep)
  let display := first.pushes.foldl Display.take .blank
  let listing : Listing := ⟨r.sources, 0⟩
  let options : CanvasOptions := { showEdgeLabels := r.settings.showEdgeLabels }
  let (canvas, effects, canvasLog) := Canvas.mount options b.toSurroundings fresh.dataset
  (⟨first.engine, display, listing, .ok canvas, r.settings.fullGraph⟩,
    scroll b listing display.markedLine ++ effects,
    fresh.dataset.warnings ++ [greeting fresh.dataset r.sources, first.log] ++ canvasLog)

/-! ### Events -/

/-- What an event does to the viewer. -/
structure Turn where
  viewer : Viewer
  /-- Something on the viewer, or the page around it, has taken the event. -/
  taken : Bool := true
  /-- What has been pushed to the views. -/
  pushes : List Push := []
  effects : List Effect := []
  log : List LogLine := []
  /-- The fault that the event has ended with, if it has. -/
  fault : Option SimulationFault := none

/-- An action of the replay. -/
def act (v : Viewer) (a : Action) : Turn :=
  let o := v.engine.act a
  { viewer := { v with engine := o.engine, display := o.pushes.foldl Display.take v.display }
    pushes := o.pushes
    log := [o.log] }

/-- Another file is listed. -/
def pick (v : Viewer) (selected : Nat) : Turn :=
  { viewer := { v with listing := { v.listing with selected } } }

/-- A gesture.  The scene of a canvas that has been stopped is out of reach, and a gesture that
reaches for it fails like the frame did. -/
def gesture (v : Viewer) (b : Browser) (g : Gesture) : Turn :=
  match v.canvas with
  | .ok canvas =>
    let (canvas, effects) := canvas.handle b.toSurroundings v.display.visual g
    { viewer := { v with canvas := .ok canvas }, effects }
  | .error f =>
    { viewer := v
      effects := g.effects
      fault := if g.reachesScene b.toSurroundings then some f else none }

/-- Several frames; the first one that fails stops the canvas, which asks for no others. -/
def frames (v : Viewer) (b : Browser) (n : Nat) : Turn :=
  match v.canvas with
  | .ok canvas =>
    match Canvas.frames b.toSurroundings v.display.visual n canvas with
    | .ok (canvas, effects) => { viewer := { v with canvas := .ok canvas }, effects }
    | .error f => { viewer := { v with canvas := .error f }, fault := some f }
  | .error _ => { viewer := v }

/-- The window has a new size. -/
def windowResized (v : Viewer) (b : Browser) : Turn :=
  match v.canvas with
  | .ok canvas =>
    let (canvas, effects) := canvas.windowResized b.toSurroundings
    { viewer := { v with canvas := .ok canvas }, effects }
  | .error _ => { viewer := v }

/-- What the listing does about some pushes: if one of them has set the marked line, it scrolls. -/
def scrollAfter (v : Viewer) (b : Browser) (pushes : List Push) : List Effect :=
  if pushes.any Push.setsMark then scroll b v.listing v.display.markedLine else []

/-- The viewer on the page. -/
def render (v : Viewer) : Markup :=
  .classed "div" "replay-viewer" [
    .classed "aside" "sidebar-left" [v.listing.render v.display.markedLine],
    .classed "div" "splitter" [],
    .classed "main" "graph-pane" [
      Controls.render v.display.slider,
      .classed "div" "graph-container" [
        .element "canvas" [
          ("class", "arg-graph-canvas"), ("style", "display: block; cursor: grab;")] []]]]

end Viewer

end Retrace
