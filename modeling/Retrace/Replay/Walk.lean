import Retrace.Dataset
import Retrace.Replay.Visual

/-!
The walk of the replay.

Step `i` means that the first `i + 1` nodes in step order have been reached.  What the step shows
is found by visiting these nodes one after the other: a node wakes its ends of edges, is
highlighted or ends highlights, and retracts every edge that expires at its index.  A node whose
interval starts below zero is only looked at for the stop of the analysis.

* `Walk.visit` is the visit of one node;
* `Dataset.visualAt` shows a step; past the last step it shows the last one without the merge
  highlight of the last node.
-/

namespace Retrace

/-- Where a walk over the nodes stands. -/
structure Walk where
  visual : Visual
  /-- The edges that have been touched, each with the index at which it expires. -/
  stamps : List (Int × EdgeId)
  /-- The line of the last visited node with a line on its first incoming edge. -/
  lastLine : Option UInt32

namespace Walk

/-- The walk before the first node, towards the given step. -/
def start (d : Dataset) (step : Nat) : Walk where
  visual := { Visual.blank d.edges.length with step }
  stamps := []
  lastLine := none

/-- Applies a change to the edges at the given places. -/
def changeEdges (change : Liveness → Liveness) (ids : List EdgeId) (edges : List Liveness) :
    List Liveness :=
  ids.foldl (fun es id => es.modify id change) edges

/-- The edges stamped with an index. -/
def expiring (stamps : List (Int × EdgeId)) (id : NodeId) : List EdgeId :=
  (stamps.filter fun (stop, _) => stop = id.toNat).map (·.2)

/-- The line of the first of some edges, if there is one. -/
def firstLine (d : Dataset) (ids : List EdgeId) : Option UInt32 :=
  (ids.head?.bind d.edge?).bind Edge.lineNumber

/-- The line of the merge that a node stands for. -/
def mergeLine (d : Dataset) (n : Node) : Option UInt32 :=
  if n.kind = .merged then firstLine d (d.outgoing n.index) else none

/-- The merge highlights after a node: a merged node is highlighted, a node of a clearing kind ends
every highlight. -/
def recolor (n : Node) (colored : IdSet) : IdSet :=
  let colored := if n.kind = .merged then colored.insert n.index else colored
  if n.kind.clearsHighlight then ∅ else colored

/-- The visit of a node that is reached. -/
def reach (d : Dataset) (w : Walk) (n : Node) : Walk :=
  let outgoing := d.outgoing n.index
  let incoming := d.incoming n.index
  let stop := d.stopOf n
  let stamps := w.stamps ++ outgoing.map (stop, ·) ++ incoming.map (stop, ·)
  let woken := changeEdges .wakeTarget incoming (changeEdges .wakeSource outgoing w.visual.edges)
  let lastLine := (firstLine d incoming).or w.lastLine
  let entered := (incoming.head?.bind d.edge?).isSome
  { visual :=
      { w.visual with
        shownNodes := w.visual.shownNodes.insert n.index
        edges := changeEdges (fun _ => .dead) (expiring stamps n.index) woken
        mergeColored := recolor n w.visual.mergeColored
        markedLine := (if entered then lastLine else none).or (mergeLine d n) }
    stamps
    lastLine }

/-- The visit of a node. -/
def visit (d : Dataset) (w : Walk) (n : Node) : Walk :=
  let stopped := if n.analysisStop then w.visual.stopped.insert n.index else w.visual.stopped
  let w := { w with visual := { w.visual with stopped, markedLine := none } }
  if n.intervalStart < 0 then w else reach d w n

/-- The walk over the nodes up to a step. -/
def upTo (d : Dataset) (step : Nat) : Walk :=
  (d.nodes.take (step + 1)).foldl (visit d) (start d step)

end Walk

/-- What a step shows. -/
def Dataset.visualAt (d : Dataset) (step : Nat) : Visual :=
  match d.maxStep? with
  | none => .blank d.edges.length
  | some last =>
    if step ≤ last then (Walk.upTo d step).visual
    else
      let v := (Walk.upTo d last).visual
      match d.nodeAt? last with
      | some n => { v with mergeColored := v.mergeColored.erase n.index }
      | none => v

end Retrace
