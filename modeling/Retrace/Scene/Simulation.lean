/-!
The forces that spread the picture out.

Bodies attract each other along springs and repel each other everywhere.  In a round each body in
turn is attracted by its neighbours, exchanges a repulsion with every later body, and moves; later
bodies see the new positions.  An anchored body does not move by itself.  All numbers are of single
precision and every sum is taken from left to right.

* `Springs.neighbours`: the bodies joined to a body, the latest spring first;
* `turn`: the turn of one body; `advance`: a round.

A body that is joined to itself cannot take its turn.
-/

namespace Retrace

/-- What keeps the simulation from going on. -/
inductive SimulationFault where
  /-- A body is joined to itself. -/
  | selfAttraction
  deriving DecidableEq, Repr

/-- A point mass. -/
structure Body where
  x : Float32
  y : Float32
  vx : Float32
  vy : Float32
  ax : Float32
  ay : Float32
  mass : Float32
  anchored : Bool

namespace Simulation

/-! ### Constants -/

/-- How strongly bodies repel each other. -/
def charge : Float32 := 250

/-- How strongly a spring pulls. -/
def stiffness : Float32 := 0.08

/-- The greatest force that acts along one axis. -/
def maxForce : Float32 := 100

/-- How much an acceleration changes the speed. -/
def nodeSpeed : Float32 := 3000

/-- The part of the speed that is left after a round. -/
def damping : Float32 := 0.85

/-! ### Forces -/

/-- The direction from one body to another, and their distance; bodies at one point count as one
apart. -/
def heading (a b : Body) : Float32 × Float32 × Float32 :=
  let dx := b.x - a.x
  let dy := b.y - a.y
  let distance := if dx == 0 && dy == 0 then 1 else (dx * dx + dy * dy).sqrt
  (dx / distance, dy / distance, distance)

/-- The pull of a spring on its first body. -/
def attraction (a b : Body) : Float32 × Float32 :=
  let (dx, dy, distance) := heading a b
  let strength := 1 * stiffness * distance * 0.5
  (dx * strength, dy * strength)

/-- The push of the second body on the first. -/
def repulsion (a b : Body) : Float32 × Float32 :=
  let (dx, dy, distance) := heading a b
  let strength := -charge * (a.mass * b.mass / (distance * distance))
  (dx * strength, dy * strength)

/-- A force along one axis, cut to the greatest one; no number counts as the greatest backward
force. -/
def cut (f : Float32) : Float32 :=
  if f > maxForce then maxForce else if f >= -maxForce then f else -maxForce

/-- The force acts on the body for a while. -/
def apply (dt : Float32) (force : Float32 × Float32) (b : Body) : Body :=
  { b with ax := b.ax + cut force.1 * dt, ay := b.ay + cut force.2 * dt }

/-- The force acts on the body for a while, unless it is anchored. -/
def applyFree (dt : Float32) (force : Float32 × Float32) (b : Body) : Body :=
  if b.anchored then b else apply dt force b

/-- The body moves for a while, unless it is anchored. -/
def move (dt : Float32) (b : Body) : Body :=
  if b.anchored then b
  else
    let vx := (b.vx + b.ax * dt * nodeSpeed) * damping
    let vy := (b.vy + b.ay * dt * nodeSpeed) * damping
    { b with vx, vy, x := b.x + vx * dt, y := b.y + vy * dt, ax := 0, ay := 0 }

/-! ### Springs -/

/-- Springs between bodies, which are named by their places. -/
abbrev Springs := List (Nat × Nat)

/-- Adds a spring, unless the two bodies are joined already. -/
def Springs.join (springs : Springs) (a b : Nat) : Springs :=
  if (a, b) ∈ springs ∨ (b, a) ∈ springs then springs else springs ++ [(a, b)]

/-- The bodies joined to a body: first those at the far end of springs from it, then those at the
near end of springs to it, each time the latest spring first.  A spring from a body to itself
counts once. -/
def Springs.neighbours (springs : Springs) (a : Nat) : List Nat :=
  ((springs.filter fun s => s.1 = a).map (·.2)).reverse ++
    ((springs.filter fun s => s.2 = a ∧ s.1 ≠ a).map (·.1)).reverse

/-! ### Rounds -/

/-- The turn of the body at place `i`. -/
def turn (springs : Springs) (dt : Float32) (bodies : List Body) (i : Nat) :
    Except SimulationFault (List Body) :=
  match bodies[i]? with
  | none => .ok bodies
  | some b =>
    let near := springs.neighbours i
    if i ∈ near then .error .selfAttraction
    else
      let later := bodies.drop (i + 1)
      let pulled := (near.filterMap (bodies[·]?)).foldl (fun b o => apply dt (attraction b o) b) b
      let pushed := later.foldl (fun b o => applyFree dt (repulsion b o) b) pulled
      let answered := later.map fun o =>
        let (fx, fy) := repulsion b o
        applyFree dt (-fx, -fy) o
      .ok (bodies.take i ++ move dt pushed :: answered)

/-- A round of the simulation. -/
def advance (springs : Springs) (dt : Float32) (bodies : List Body) :
    Except SimulationFault (List Body) :=
  (List.range bodies.length).foldlM (turn springs dt) bodies

end Simulation

end Retrace
