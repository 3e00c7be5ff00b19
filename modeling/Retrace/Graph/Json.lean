import Retrace.Graph.Basic
import Retrace.Json.Printer
import Retrace.Json.Record

/-!
The JSON form of a graph.

A graph is a record of two lists.  A node needs its index and its start, an edge its two ends; every
other field has a default.  Printing writes every field, in the same order in which the records
list them.
-/

namespace Retrace

open Json

/-! ### Nodes -/

/-- The fields of a node as far as they have been read. -/
structure Node.Draft where
  index : Option NodeId := none
  label : Option String := none
  kind : Option Kind := none
  intervalStart : Option Int64 := none
  intervalStop : Option (Option Int64) := none
  analysisStop : Option Bool := none

/-- A kind, read from its tag. -/
def Kind.read : Reader Kind := fun s => (text s).map fun (t, r) => (Kind.ofTag t, r)

/-- How a node is read. -/
def Node.shape : Shape Node.Draft Node where
  name := "GraphNode"
  start := {}
  fields := [
    .of "index" (·.index) (fun d v => { d with index := some v }) natural32,
    .of "label" (·.label) (fun d v => { d with label := some v }) text,
    .of "type" (·.kind) (fun d v => { d with kind := some v }) Kind.read,
    .of "intervalStart" (·.intervalStart) (fun d v => { d with intervalStart := some v }) integer64,
    .of "intervalStop" (·.intervalStop) (fun d v => { d with intervalStop := some v })
      (optional integer64),
    .of "analysisStop" (·.analysisStop) (fun d v => { d with analysisStop := some v }) boolean]
  finish d := do
    let index ← required "index" d.index
    let intervalStart ← required "intervalStart" d.intervalStart
    return {
      index, intervalStart
      label := d.label.getD ""
      kind := d.kind.getD .plain
      intervalStop := d.intervalStop.getD none
      analysisStop := d.analysisStop.getD false }

/-- The JSON form of a node. -/
def Node.print (n : Node) : List Char :=
  printRecord [
    ("index", printNat n.index.toNat),
    ("label", printText n.label),
    ("type", printText n.kind.tag),
    ("intervalStart", printInt n.intervalStart.toInt),
    ("intervalStop", printOption (fun i : Int64 => printInt i.toInt) n.intervalStop),
    ("analysisStop", printBool n.analysisStop)]

/-! ### Edges -/

/-- The fields of an edge as far as they have been read. -/
structure Edge.Draft where
  source : Option NodeId := none
  target : Option NodeId := none
  label : Option String := none
  line : Option Int64 := none

/-- How an edge is read. -/
def Edge.shape : Shape Edge.Draft Edge where
  name := "GraphEdge"
  start := {}
  fields := [
    .of "source" (·.source) (fun d v => { d with source := some v }) natural32,
    .of "target" (·.target) (fun d v => { d with target := some v }) natural32,
    .of "label" (·.label) (fun d v => { d with label := some v }) text,
    .of "line" (·.line) (fun d v => { d with line := some v }) integer64]
  finish d := do
    let source ← required "source" d.source
    let target ← required "target" d.target
    return { source, target, label := d.label.getD "", line := d.line.getD (-1) }

/-- The JSON form of an edge. -/
def Edge.print (e : Edge) : List Char :=
  printRecord [
    ("source", printNat e.source.toNat),
    ("target", printNat e.target.toNat),
    ("label", printText e.label),
    ("line", printInt e.line.toInt)]

/-! ### Graphs -/

/-- The lists of a graph as far as they have been read. -/
structure Graph.Draft where
  nodes : Option (List Node) := none
  edges : Option (List Edge) := none

/-- How a graph is read. -/
def Graph.shape : Shape Graph.Draft Graph where
  name := "GraphData"
  start := {}
  fields := [
    .of "nodes" (·.nodes) (fun d v => { d with nodes := some v }) (list Node.shape.record),
    .of "edges" (·.edges) (fun d v => { d with edges := some v }) (list Edge.shape.record)]
  finish d := do
    let nodes ← required "nodes" d.nodes
    let edges ← required "edges" d.edges
    return { nodes, edges }

/-- Reads a graph off the front of a text. -/
def Graph.read : Reader Graph := Graph.shape.record

/-- The JSON form of a graph. -/
def Graph.print (g : Graph) : String :=
  String.ofList (printRecord [
    ("nodes", printList Node.print g.nodes),
    ("edges", printList Edge.print g.edges)])

end Retrace
