import Retrace.Scene.Basic

/-!
The highlight under the pointer.

The particle that the pointer is on is the focus, and its neighbours are highlighted with it.  When
the pointer leaves for the open plane the focus stays as the previous one until its highlight has
faded; when it moves from particle to particle the focus moves at once.

* `Scene.setHover` moves the focus;
* `Scene.tick` lets time pass, for the simulation and for the highlight.
-/

namespace Retrace

namespace Hover

/-- How long the pointer has to stay before the highlight comes. -/
def hoverDelay : Float := 0.08

/-- The highlight after a while, on its way to the given value. -/
def approach (highlight goal speed dt : Float) : Float :=
  highlight + (goal - highlight) * speed * dt

/-- The highlight comes while the pointer is on a particle, and fades otherwise; once it has almost
faded the previous focus is forgotten. -/
def pass (h : Hover) (dt : Float) : Hover :=
  if h.node.isSome then
    let waited := h.delay + dt
    let delay := if waited < hoverDelay then waited else hoverDelay
    let highlight :=
      if delay >= hoverDelay then approach h.highlight 1 1.8 dt else h.highlight
    { h with delay, highlight }
  else
    let highlight := approach h.highlight 0 1.26 dt
    if highlight < 0.01 then { h with highlight := 0, previous := none, previousNeighbours := [] }
    else { h with highlight }

end Hover

namespace Scene

/-- The particles joined to a particle, ascending. -/
def neighbours (s : Scene) (i : Nat) : List Nat :=
  (List.range s.particles.length).filter fun j => s.links.any (·.joins i j)

/-- The pointer comes to a particle, or to none. -/
def setHover (s : Scene) (node : Option Nat) : Scene :=
  let h := s.hover
  if h.node = node then s
  else
    match node with
    | none =>
      { s with hover :=
        { h with
          node := none
          neighbours := []
          previous := h.node
          previousNeighbours := h.neighbours } }
    | some i =>
      { s with hover :=
        { h with
          node := some i
          neighbours := s.neighbours i
          previous := none
          previousNeighbours := []
          delay := if h.node.isNone then 0 else h.delay } }

/-- Whether the particle is highlighted. -/
def isHighlighted (s : Scene) (i : Nat) : Bool :=
  s.hover.node = some i || s.hover.neighbours.contains i || s.hover.previous = some i ||
    s.hover.previousNeighbours.contains i

/-- Whether the particle is the focus. -/
def isHovered (s : Scene) (i : Nat) : Bool :=
  s.hover.node = some i || s.hover.previous = some i

/-- Whether there is a focus. -/
def hasFocus (s : Scene) : Bool := s.hover.node.isSome || s.hover.previous.isSome

/-! ### Time -/

/-- Time passes. -/
def tick (s : Scene) (dt : Float32) : Except SimulationFault Scene :=
  match s.settle dt with
  | .error f => .error f
  | .ok s =>
    let passed := Precision.widen dt
    .ok { s with flowTime := s.flowTime + passed, hover := s.hover.pass passed }

end Scene

end Retrace
