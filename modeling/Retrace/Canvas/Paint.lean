import Retrace.Canvas.Draw
import Retrace.Decimal.Remainder
import Retrace.Replay.Visual
import Retrace.Scene.Hover

/-!
How a scene is painted.

A picture is the background, then the links and the particles in the moved plane, then the label of
the particle under the pointer in front of everything.  Only what the replay shows is painted.

* `Scene.paintLink`: the dashed line of a link, its arrow head and its label;
* `Scene.paintOrder`: the particles in the order in which they are painted, the highlighted ones
  last;
* `Scene.paintParticle`: a disc with its glow, its rings and its number;
* `Scene.paint`: the whole picture.
-/

namespace Retrace

namespace Scene

/-! ### Styles -/

/-- The color behind the picture. -/
def background : String := "#1a1a2e"

/-- The fill of a plain particle. -/
def nodeFill : String := "#4a78c2"

/-- The fill of a particle that will be merged. -/
def toMergeFill : String := "#8c6bb1"

/-- The fill of a highlighted merge. -/
def mergedFill : String := "#f0a030"

/-- The ring of a state at which the analysis stopped. -/
def stopRing : String := "#e04848"

/-- The ring of the newest state. -/
def newestRing : String := "#1366eb"

/-- The color of links. -/
def linkColor (alpha : Float) : String := rgba 100 180 255 alpha

/-- The color of labels of links and of the outer glow. -/
def paleColor (alpha : Float) : String := rgba 200 220 255 alpha

/-- White. -/
def white (alpha : Float) : String := rgba 255 255 255 alpha

/-- The fill of a particle. -/
def fillFor (kind : Kind) (mergeColored : Bool) : String :=
  if mergeColored then mergedFill
  else
    match kind with
    | .toMerge => toMergeFill
    | _ => nodeFill

/-- The strength of the highlight on its way from 0 to 1: fast at first, then slower. -/
def easeOut (t : Float) : Float :=
  let rest := 1 - t
  1 - rest * (rest * rest)

/-- The strength of the highlight. -/
def emphasis (s : Scene) : Float := easeOut s.hover.highlight

/-- The zoom as far as the size of texts follows it. -/
def textZoom (k : Float) : Float := if k > 0.5 then k else 0.5

/-- A full turn. -/
def fullTurn : Float := 2 * 3.141592653589793

/-! ### Links -/

/-- The ends of a link that is long enough to be painted. -/
structure Span where
  x1 : Float
  y1 : Float
  x2 : Float
  y2 : Float
  length : Float

/-- The span of a link, unless its ends are too close. -/
def spanOf? (s : Scene) (l : Link) : Option Span :=
  match s.particles[l.source]?, s.particles[l.target]? with
  | some a, some b =>
    let dx := b.x - a.x
    let dy := b.y - a.y
    let length := (dx * dx + dy * dy).sqrt
    if length < 0.001 then none else some ⟨a.x, a.y, b.x, b.y, length⟩
  | _, _ => none

/-- The links that are painted, with their spans, in edge order. -/
def paintedLinks (s : Scene) (v : Visual) : List (Link × Span) :=
  (s.links.filter fun l => v.showsEdge l.id).filterMap fun l => (s.spanOf? l).map (l, ·)

/-- A link on the canvas. -/
def paintLink (s : Scene) (l : Link) (span : Span) : List Draw :=
  let k := s.transform.k
  let t := s.emphasis
  let lineWidth := 1.5 / k
  let dash := 8 / k
  let gap := 4 / k
  let arrow := 8 / k
  let offset := Decimal.remainder (-(s.flowTime * 30)) (dash + gap)
  let highlighted := s.isHighlighted l.source && s.isHighlighted l.target
  let lineAlpha := if highlighted then 0.6 + 0.3 * t else 0.6 - 0.45 * t
  let arrowAlpha := if highlighted then 0.8 + 0.1 * t else 0.8 - 0.45 * t
  let width := if highlighted then lineWidth * (1 + 0.3 * t) else lineWidth * (1 - 0.3 * t)
  let ux := (span.x2 - span.x1) / span.length
  let uy := (span.y2 - span.y1) / span.length
  let tipX := span.x2 - ux * nodeRadius
  let tipY := span.y2 - uy * nodeRadius
  let backX := tipX - ux * arrow
  let backY := tipY - uy * arrow
  let px := -uy * arrow * 0.5
  let py := ux * arrow * 0.5
  let line : List Draw := [
    .strokeStyle (linkColor lineAlpha), .lineWidth width, .lineDash [dash, gap],
    .lineDashOffset offset, .beginPath,
    .moveTo (span.x1 + ux * nodeRadius) (span.y1 + uy * nodeRadius),
    .lineTo (span.x2 - ux * (nodeRadius + arrow)) (span.y2 - uy * (nodeRadius + arrow)),
    .stroke, .lineDash []]
  let head : List Draw := [
    .fillStyle (linkColor arrowAlpha), .beginPath, .moveTo tipX tipY,
    .lineTo (backX + px) (backY + py), .lineTo (backX - px) (backY - py), .closePath, .fill]
  let label : List Draw :=
    if s.showEdgeLabels && l.label ≠ "" && k > 0.5 then [
      .fillStyle (paleColor lineAlpha), .font (fontOf (9 / textZoom k) "monospace"),
      .fillText ((span.x1 + span.x2) / 2 + 4) ((span.y1 + span.y2) / 2) l.label]
    else []
  line ++ head ++ label

/-- All links on the canvas. -/
def paintLinks (s : Scene) (v : Visual) : List Draw :=
  ((s.paintedLinks v).flatMap fun (l, span) => s.paintLink l span) ++ [.lineDash []]

/-! ### Particles -/

/-- Whether the particle is painted in the pass for highlighted ones. -/
def inFront (s : Scene) (i : Nat) : Bool := s.hasFocus && s.isHighlighted i

/-- The particles of one pass, in scene order. -/
def pass (s : Scene) (v : Visual) (front : Bool) : List (Particle × Nat) :=
  s.particles.zipIdx.filter fun (p, i) => v.showsNode p.info.id && s.inFront i == front

/-- The particles in the order in which they are painted. -/
def paintOrder (s : Scene) (v : Visual) : List (Particle × Nat) :=
  s.pass v false ++ (if s.hasFocus then s.pass v true else [])

/-- How a particle looks. -/
structure Look where
  alpha : Float
  radius : Float
  glowRadius : Float

/-- The look of a particle. -/
def lookOf (s : Scene) (i : Nat) : Look :=
  let t := s.emphasis
  if !s.inFront i then ⟨1 - 0.7 * t, nodeRadius * (1 - 0.15 * t), 0⟩
  else if s.isHovered i then ⟨1, nodeRadius * (1 + 0.35 * t), nodeRadius * (1.8 + 1.2 * t)⟩
  else ⟨1, nodeRadius * (1 + 0.2 * t), nodeRadius * (1.4 + 0.6 * t)⟩

/-- Whether the particle glows. -/
def glows (s : Scene) (i : Nat) : Bool := (s.lookOf i).glowRadius > 0 && s.emphasis > 0.01

/-- The glow around a particle, drawn with the given gradient. -/
def paintGlow (s : Scene) (p : Particle) (i gradient : Nat) : List Draw :=
  let t := s.emphasis
  let look := s.lookOf i
  let glow := if s.isHovered i then 0.35 * t else 0.2 * t
  [.radialGradient gradient p.x p.y (look.radius * 0.3) p.x p.y look.glowRadius,
    .colorStop gradient 0 (white glow), .colorStop gradient 0.6 (paleColor (glow * 0.3)),
    .colorStop gradient 1 (white 0), .beginPath, .arc p.x p.y look.glowRadius 0 fullTurn,
    .fillGradient gradient, .fill]

/-- A particle on the canvas; its glow is drawn with the given gradient. -/
def paintParticle (s : Scene) (v : Visual) (p : Particle) (i gradient : Nat) : List Draw :=
  let k := s.transform.k
  let look := s.lookOf i
  let id := p.info.id
  let glow := if s.glows i then s.paintGlow p i gradient else []
  let disc : List Draw := [
    .globalAlpha look.alpha, .beginPath, .arc p.x p.y look.radius 0 fullTurn,
    .fillStyle (fillFor p.info.kind (id ∈ v.mergeColored)), .fill]
  let stop : List Draw :=
    if id ∈ v.stopped then [.strokeStyle stopRing, .lineWidth (3 / k), .stroke] else []
  let newest : List Draw :=
    if s.newest = some id then [
      .beginPath, .arc p.x p.y (look.radius + 3 / k) 0 fullTurn, .strokeStyle newestRing,
      .lineWidth (4 / k), .stroke]
    else []
  let number : List Draw := [
    .globalAlpha 1, .fillStyle (white (look.alpha * 0.9)),
    .font (fontOf (10 / textZoom k) "sans-serif"),
    .fillText (p.x + look.radius + 3) (p.y + 3) (toString id)]
  glow ++ disc ++ stop ++ newest ++ number

/-- Particles on the canvas, their gradients numbered from the given one on. -/
def paintParticles (s : Scene) (v : Visual) (gradient : Nat) : List (Particle × Nat) → List Draw
  | [] => []
  | (p, i) :: more =>
    s.paintParticle v p i gradient ++
      s.paintParticles v (if s.glows i then gradient + 1 else gradient) more

/-! ### The picture -/

/-- The number and the label of the particle under the pointer, beside the pointer. -/
def paintTooltip (s : Scene) (v : Visual) : List Draw :=
  match s.hover.node.bind s.info? with
  | none => []
  | some info =>
    if v.showsNode info.id then
      let first := s!"ARG_ID: {info.id}"
      let second := "Label: " ++ info.label
      let x := s.hover.pointer.1 + 20
      let y := s.hover.pointer.2
      let wider (a b : Float) : Float := if a < b then b else a
      let width := wider (wider 0 (textWidth first)) (textWidth second)
      [.font "12px sans-serif", .measureText first, .measureText second,
        .fillStyle "rgba(20, 20, 35, 0.92)", .fillRect x y (width + 16) 44, .fillStyle "white",
        .fillText (x + 8) (y + 18 + 16 * 0) first, .fillText (x + 8) (y + 18 + 16 * 1) second]
    else []

/-- The whole picture. -/
def paint (s : Scene) (v : Visual) : List Draw :=
  [.fillStyle background, .fillRect 0 0 s.width s.height, .save,
    .translate s.transform.x s.transform.y, .scale s.transform.k s.transform.k] ++
  s.paintLinks v ++ s.paintParticles v 1 (s.paintOrder v) ++ [.restore] ++ s.paintTooltip v

end Scene

end Retrace
