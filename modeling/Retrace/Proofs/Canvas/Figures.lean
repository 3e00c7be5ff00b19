import Retrace.Canvas.Paint
import Retrace.Proofs.Canvas.Context

/-!
What links and particles leave on the canvas.

* `Scene.arrowFigures`: the line, the head and the text of an arrow between two particles;
  `Scene.leaves_paintLink`: a link leaves an arrow;
* `Scene.particleFigures`: the glow, the disc, the rings and the number of a particle;
  `Scene.leaves_paintParticle`, `Scene.leaves_paintParticles`: particles leave these in the order in
  which they are painted;
* `Scene.shown`, `Scene.paintOrder_eq`: this order is that of the shown particles, but those in
  front come last; `Scene.mem_paintOrder`: it holds what is shown.
-/

namespace Retrace

/-! ### Arrows -/

namespace Particle

variable (a b : Particle)

/-- The distance of two particles. -/
def distance : Float :=
  let dx := b.x - a.x
  let dy := b.y - a.y
  (dx * dx + dy * dy).sqrt

/-- The direction from one particle to another. -/
def heading : Float × Float := ((b.x - a.x) / a.distance b, (b.y - a.y) / a.distance b)

end Particle

namespace Scene

variable {s : Scene} {v : Visual} {a b : Particle} {l : Link}

/-- How long an arrow head is. -/
def arrowLength (s : Scene) : Float := 8 / s.transform.k

/-- The line of an arrow, from the rim of the first particle to the head in front of the second. -/
def shaft (s : Scene) (a b : Particle) : Figure :=
  let u := a.heading b
  .line [.moveTo (a.x + u.1 * nodeRadius) (a.y + u.2 * nodeRadius),
    .lineTo (b.x - u.1 * (nodeRadius + s.arrowLength)) (b.y - u.2 * (nodeRadius + s.arrowLength))]

/-- The head of an arrow, whose tip is on the rim of the second particle. -/
def arrowhead (s : Scene) (a b : Particle) : Figure :=
  let u := a.heading b
  let tip := (b.x - u.1 * nodeRadius, b.y - u.2 * nodeRadius)
  let back := (tip.1 - u.1 * s.arrowLength, tip.2 - u.2 * s.arrowLength)
  let side := (-u.2 * s.arrowLength * 0.5, u.1 * s.arrowLength * 0.5)
  .area [.moveTo tip.1 tip.2, .lineTo (back.1 + side.1) (back.2 + side.2),
    .lineTo (back.1 - side.1) (back.2 - side.2), .closePath]

/-- The text beside the middle of an arrow, if there is one to be read. -/
def caption (s : Scene) (a b : Particle) (label : String) : List Figure :=
  if s.showEdgeLabels && label ≠ "" && s.transform.k > 0.5 then
    [.text ((a.x + b.x) / 2 + 4) ((a.y + b.y) / 2) label]
  else []

/-- What an arrow consists of. -/
def arrowFigures (s : Scene) (a b : Particle) (label : String) : List Figure :=
  s.shaft a b :: s.arrowhead a b :: s.caption a b label

/-- The span between two particles. -/
def spanOf (a b : Particle) : Span := ⟨a.x, a.y, b.x, b.y, a.distance b⟩

lemma spanOf?_eq (ha : s.particles[l.source]? = some a) (hb : s.particles[l.target]? = some b) :
    s.spanOf? l = if a.distance b < 0.001 then none else some (spanOf a b) := by
  rw [spanOf?, ha, hb]
  rfl

lemma leaves_paintLink (s : Scene) (l : Link) (a b : Particle) :
    Draw.Leaves (s.paintLink l (spanOf a b)) (s.arrowFigures a b l.label) := by
  intro c
  rw [arrowFigures, caption, paintLink]
  by_cases htext : s.showEdgeLabels && l.label ≠ "" && s.transform.k > 0.5
  · rw [if_pos htext, if_pos htext]
    rfl
  · rw [if_neg htext, if_neg htext]
    rfl

/-! ### Particles -/

/-- A circle around a particle. -/
def circle (p : Particle) (radius : Float) : List Draw := [.arc p.x p.y radius 0 fullTurn]

/-- The disc of a particle. -/
def disc (s : Scene) (p : Particle) (i : Nat) : Figure := .area (circle p (s.lookOf i).radius)

/-- The number beside a particle. -/
def numeral (s : Scene) (p : Particle) (i : Nat) : Figure :=
  .text (p.x + (s.lookOf i).radius + 3) (p.y + 3) (toString p.info.id)

/-- What a particle consists of: its glow, its disc, its rings and its number. -/
def particleFigures (s : Scene) (v : Visual) (p : Particle) (i : Nat) : List Figure :=
  let glow := if s.glows i then [.area (circle p (s.lookOf i).glowRadius)] else []
  let stop := if p.info.id ∈ v.stopped then [.line (circle p (s.lookOf i).radius)] else []
  let newest :=
    if s.newest = some p.info.id then
      [.line (circle p ((s.lookOf i).radius + 3 / s.transform.k))]
    else []
  glow ++ [s.disc p i] ++ stop ++ newest ++ [s.numeral p i]

lemma leaves_paintParticle (s : Scene) (v : Visual) (p : Particle) (i gradient : Nat) :
    Draw.Leaves (s.paintParticle v p i gradient) (s.particleFigures v p i) := by
  intro c
  rw [particleFigures, paintParticle]
  split <;> split <;> split <;> rfl

lemma leaves_paintParticles (s : Scene) (v : Visual) (gradient : Nat) (ps : List (Particle × Nat)) :
    Draw.Leaves (s.paintParticles v gradient ps)
      (ps.flatMap fun (p, i) => s.particleFigures v p i) := by
  induction ps generalizing gradient with
  | nil => exact fun _ => rfl
  | cons q ps ih => exact (leaves_paintParticle s v q.1 q.2 gradient).append (ih _)

/-! ### The order of painting -/

/-- The shown particles, in scene order. -/
def shown (s : Scene) (v : Visual) : List (Particle × Nat) :=
  s.particles.zipIdx.filter fun q => q.1.info.id ∈ v.shownNodes

lemma mem_shown {p : Particle} {i : Nat} :
    (p, i) ∈ s.shown v ↔ s.particles[i]? = some p ∧ p.info.id ∈ v.shownNodes := by
  simp [shown, List.mem_zipIdx_iff_getElem?]

lemma pass_eq (s : Scene) (v : Visual) (front : Bool) :
    s.pass v front = (s.shown v).filter fun q => s.inFront q.2 == front := by
  rw [shown, List.filter_filter]
  exact List.filter_congr fun q _ => Bool.and_comm _ _

/-- The shown particles are painted in scene order, but those in front after the others.  Without a
focus nothing is in front, and leaving the second pass out makes no difference. -/
lemma paintOrder_eq (s : Scene) (v : Visual) :
    s.paintOrder v = ((s.shown v).filter fun q => !s.inFront q.2)
      ++ (s.shown v).filter fun q => s.inFront q.2 := by
  have hpasses : s.paintOrder v = s.pass v false ++ s.pass v true := by
    rw [paintOrder]
    cases hfocus : s.hasFocus with
    | true => rw [if_pos rfl]
    | false =>
        have hnone : s.pass v true = [] := by simp [pass, inFront, hfocus]
        rw [if_neg Bool.false_ne_true, hnone]
  rw [hpasses, pass_eq, pass_eq]
  simp only [beq_false, beq_true]

lemma paintOrder_perm (s : Scene) (v : Visual) : (s.paintOrder v).Perm (s.shown v) := by
  rw [paintOrder_eq]
  exact List.perm_append_comm.trans (List.filter_append_perm _ _)

/-- The particles that are painted are those that are shown. -/
lemma mem_paintOrder {p : Particle} {i : Nat} :
    (p, i) ∈ s.paintOrder v ↔ s.particles[i]? = some p ∧ p.info.id ∈ v.shownNodes := by
  rw [(s.paintOrder_perm v).mem_iff, mem_shown]

end Scene

end Retrace
