import Retrace.Graph.Adjacency
import Retrace.Log

/-!
The indexed graph of a report.

The nodes stand in step order, which is the order of their starts; nodes with the same start keep
the order of the data.  Edges keep their places and are found by either end.  Defects of the data
are collected and do no harm: the lookups that they concern come back empty.

* `Dataset.ofGraph` indexes a graph;
* `Dataset.stopOf` is the index at which the edges of a node expire.
-/

namespace Retrace

/-- A defect of the data. -/
inductive Diagnostic where
  /-- A node has the index of an earlier one, which lookups find. -/
  | duplicateNode (index : NodeId)
  /-- An edge names a node that is not there. -/
  | danglingEdge (edge : EdgeId) (missing : NodeId)
  deriving DecidableEq, Repr

/-- The wording of a defect. -/
def Diagnostic.message : Diagnostic → String
  | .duplicateNode index => s!"duplicate node index {index}"
  | .danglingEdge edge missing => s!"edge #{edge} references missing node {missing}"

/-- The indexed graph. -/
structure Dataset where
  /-- The nodes in step order: the node at place `i` is reached at step `i`. -/
  nodes : List Node
  edges : List Edge
  outgoingIndex : Adjacency
  incomingIndex : Adjacency
  /-- The last start, or zero without nodes. -/
  maxInterval : Int64
  diagnostics : List Diagnostic

namespace Dataset

/-- Nodes in the order of their starts. -/
def stepOrder (nodes : List Node) : List Node :=
  nodes.mergeSort fun a b => a.intervalStart ≤ b.intervalStart

/-- A defect for each index that has occurred before; `known` holds the indices so far. -/
def duplicates (known : List NodeId) : List Node → List Diagnostic
  | [] => []
  | n :: more =>
    if n.index ∈ known then .duplicateNode n.index :: duplicates known more
    else duplicates (n.index :: known) more

/-- The ends of an edge that no node has, the source first. -/
def danglingEnds (nodes : List Node) (id : EdgeId) (e : Edge) : List Diagnostic :=
  ([e.source, e.target].filter fun i => !nodes.any (·.index == i)).map (.danglingEdge id)

/-- The edges grouped by the given end. -/
def indexBy (endpoint : Edge → NodeId) (edges : List Edge) : Adjacency :=
  edges.zipIdx.foldl (fun a (e, id) => a.add (endpoint e) id) .empty

/-- The greatest start, or zero without nodes. -/
def lastStart (nodes : List Node) : Int64 :=
  ((nodes.map (·.intervalStart)).max?).getD 0

/-- Indexes a graph. -/
def ofGraph (g : Graph) : Dataset :=
  let nodes := stepOrder g.nodes
  { nodes
    edges := g.edges
    outgoingIndex := indexBy (·.source) g.edges
    incomingIndex := indexBy (·.target) g.edges
    maxInterval := lastStart nodes
    diagnostics := duplicates [] nodes ++
      g.edges.zipIdx.flatMap fun (e, id) => danglingEnds nodes id e }

/-- One warning for each defect. -/
def warnings (d : Dataset) : List LogLine :=
  d.diagnostics.map fun x => ⟨.warn, "malformed ARG data: " ++ x.message⟩

/-- The edge at a place. -/
def edge? (d : Dataset) (id : EdgeId) : Option Edge := d.edges[id]?

/-- The node that is reached at a step. -/
def nodeAt? (d : Dataset) (step : Nat) : Option Node := d.nodes[step]?

/-- The first node in step order with an index. -/
def node? (d : Dataset) (id : NodeId) : Option Node := d.nodes.find? (·.index == id)

/-- The last step, if there is a node. -/
def maxStep? (d : Dataset) : Option Nat :=
  if d.nodes = [] then none else some (d.nodes.length - 1)

/-- The greatest node index. -/
def maxIndex? (d : Dataset) : Option NodeId := (d.nodes.map (·.index)).max?

/-- The edges that start at an index, in edge order. -/
def outgoing (d : Dataset) (id : NodeId) : List EdgeId := d.outgoingIndex.get id

/-- The edges that end at an index, in edge order. -/
def incoming (d : Dataset) (id : NodeId) : List EdgeId := d.incomingIndex.get id

/-- The index at which the edges of a node expire: its stop, or one past the last start if it has
none or has stop zero. -/
def stopOf (d : Dataset) (n : Node) : Int :=
  match n.intervalStop with
  | some stop => if stop = 0 then d.maxInterval.toInt + 1 else stop.toInt
  | none => d.maxInterval.toInt + 1

end Dataset

end Retrace
