import Retrace.Scene.Placement
import Retrace.Scene.Simulation

/-!
The scene: what the picture of a graph is made of.

A particle stands for each node, numbered in step order; a link stands for each edge both of whose
ends are nodes, and joins the particles of the first nodes with these indices.  Springs follow the
links.

* `Scene.ofDataset` sets the scene up;
* `Scene.toGraph` takes a point of the screen to the plane of the particles;
* `Scene.particleAt` finds the particle under a point.
-/

namespace Retrace

/-- What is known of the node that a particle stands for. -/
structure NodeInfo where
  id : NodeId
  label : String
  kind : Kind
  deriving DecidableEq, Repr

/-- A node of the picture. -/
structure Particle where
  info : NodeInfo
  body : Body

/-- The horizontal coordinate of a particle. -/
def Particle.x (p : Particle) : Float := Precision.widen p.body.x

/-- The vertical coordinate of a particle. -/
def Particle.y (p : Particle) : Float := Precision.widen p.body.y

/-- An edge of the picture, between two particles. -/
structure Link where
  id : EdgeId
  source : Nat
  target : Nat
  label : String
  deriving DecidableEq, Repr

/-- Whether the link joins the two particles, in either direction. -/
def Link.joins (l : Link) (i j : Nat) : Bool :=
  (l.source = i ∧ l.target = j) ∨ (l.source = j ∧ l.target = i)

/-- How the plane of the particles lies on the screen: scaled by `k`, then moved. -/
structure Transform where
  x : Float
  y : Float
  k : Float

/-- Which particle the pointer is on, and how far its highlight has come. -/
structure Hover where
  node : Option Nat
  /-- The particles joined to it, ascending. -/
  neighbours : List Nat
  /-- The highlight, from none at 0 to full at 1. -/
  highlight : Float
  /-- The particle that the pointer has left and whose highlight fades. -/
  previous : Option Nat
  previousNeighbours : List Nat
  /-- Where the pointer is on the screen. -/
  pointer : Float × Float
  /-- How long the pointer has been on a particle, as far as that matters. -/
  delay : Float

/-- Nothing is pointed at. -/
def Hover.idle : Hover := ⟨none, [], 0, none, [], (0, 0), 0⟩

/-- The picture of a graph. -/
structure Scene where
  particles : List Particle
  links : List Link
  springs : Simulation.Springs
  transform : Transform
  hover : Hover
  width : Float
  height : Float
  /-- Whether the particles move. -/
  running : Bool
  /-- How long the picture has been moving. -/
  flowTime : Float
  /-- The greatest node index, which is outlined. -/
  newest : Option NodeId
  showEdgeLabels : Bool

namespace Scene

/-- The particle of a node at its first place. -/
def particleOf (n : Node) (p : Place) : Particle where
  info := ⟨n.index, n.label, n.kind⟩
  body := {
    x := p.x, y := p.y, vx := 0, vy := 0, ax := 0, ay := 0, mass := 10, anchored := false }

/-- The number of the first node with an index. -/
def numberOf? (d : Dataset) (id : NodeId) : Option Nat := d.nodes.findIdx? (·.index == id)

/-- The link of an edge, if both of its ends are nodes. -/
def linkOf? (d : Dataset) (id : EdgeId) (e : Edge) : Option Link := do
  let source ← numberOf? d e.source
  let target ← numberOf? d e.target
  return { id, source, target, label := e.label }

/-- The links of the edges, in edge order. -/
def linksOf (d : Dataset) : List Link :=
  d.edges.zipIdx.filterMap fun (e, id) => linkOf? d id e

/-- The scene of a dataset on a screen of the given size. -/
def ofDataset (d : Dataset) (width height : Float) (showEdgeLabels : Bool) : Scene :=
  let links := linksOf d
  { particles := List.zipWith particleOf d.nodes d.places
    links
    springs := links.foldl (fun springs l => springs.join l.source l.target) []
    transform := ⟨width / 2, 60, 0.75⟩
    hover := .idle
    width
    height
    running := true
    flowTime := 0
    newest := d.maxIndex?
    showEdgeLabels }

/-! ### Points -/

/-- The radius of a particle. -/
def nodeRadius : Float := 9

/-- How close to a particle a point has to be to hit it. -/
def hitRadius : Float := 14

/-- The point of the plane that lies under a point of the screen. -/
def toGraph (s : Scene) (sx sy : Float) : Float × Float :=
  ((sx - s.transform.x) / s.transform.k, (sy - s.transform.y) / s.transform.k)

/-- Whether a point of the plane hits the particle. -/
def hits (p : Particle) (g : Float × Float) : Bool :=
  let dx := p.x - g.1
  let dy := p.y - g.2
  (dx * dx + dy * dy).sqrt < hitRadius

/-- The last of the visible particles that lie under a point of the screen. -/
def particleAt (s : Scene) (sx sy : Float) (visible : NodeId → Bool) : Option Nat :=
  let g := s.toGraph sx sy
  ((s.particles.zipIdx.filter fun (p, _) => visible p.info.id && hits p g).map (·.2)).getLast?

/-- What is known of the node that a particle stands for. -/
def info? (s : Scene) (i : Nat) : Option NodeInfo := s.particles[i]?.map (·.info)

/-- Changes the body of one particle. -/
def changeBody (s : Scene) (i : Nat) (change : Body → Body) : Scene :=
  { s with particles := s.particles.modify i fun p => { p with body := change p.body } }

/-- The scene on a screen of another size. -/
def resize (s : Scene) (width height : Float) : Scene := { s with width, height }

/-- One round of the simulation. -/
def settle (s : Scene) (dt : Float32) : Except SimulationFault Scene :=
  match Simulation.advance s.springs dt (s.particles.map (·.body)) with
  | .error f => .error f
  | .ok bodies =>
    .ok { s with particles := List.zipWith (fun p body => { p with body }) s.particles bodies }

end Scene

end Retrace
