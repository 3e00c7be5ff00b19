import Retrace.Graph.IdSet

/-!
What a step of the replay shows.
-/

namespace Retrace

/-- Which ends of an edge are alive. -/
structure Liveness where
  source : Bool
  target : Bool
  deriving DecidableEq, Repr

namespace Liveness

/-- Neither end is alive. -/
def dead : Liveness := ⟨false, false⟩

/-- Both ends are alive. -/
def full : Liveness := ⟨true, true⟩

/-- An edge is shown once both of its ends are alive. -/
def shown (l : Liveness) : Bool := l.source && l.target

/-- The liveness with the source alive. -/
def wakeSource (l : Liveness) : Liveness := { l with source := true }

/-- The liveness with the target alive. -/
def wakeTarget (l : Liveness) : Liveness := { l with target := true }

end Liveness

/-- What the graph, the source listing and the slider show at one step. -/
structure Visual where
  /-- The step that is shown, after clamping. -/
  step : Nat
  shownNodes : IdSet
  /-- By place of the edge. -/
  edges : List Liveness
  mergeColored : IdSet
  stopped : IdSet
  markedLine : Option UInt32
  deriving DecidableEq

namespace Visual

/-- Nothing is shown of the given number of edges. -/
def blank (edgeCount : Nat) : Visual where
  step := 0
  shownNodes := ∅
  edges := List.replicate edgeCount .dead
  mergeColored := ∅
  stopped := ∅
  markedLine := none

/-- Whether a node is shown. -/
def showsNode (v : Visual) (id : NodeId) : Bool := id ∈ v.shownNodes

/-- Whether an edge is shown. -/
def showsEdge (v : Visual) (id : EdgeId) : Bool :=
  match v.edges[id]? with
  | some l => l.shown
  | none => false

/-- The edges that are shown, in order. -/
def shownEdges (v : Visual) : List EdgeId :=
  (v.edges.zipIdx.filter fun (l, _) => l.shown).map (·.2)

end Visual

end Retrace
