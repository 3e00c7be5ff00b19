import Mathlib.Data.List.Permutation
import Mathlib.Tactic.ByContra
import Retrace.Proofs.Graph.Incidence
import Retrace.Proofs.Graph.StepOrder

/-!
What an index of a graph holds.

Indexing sorts the nodes, groups the edges twice and takes a maximum.  None of this loses, adds or
moves anything that the graph holds, and every lookup is that of the lists themselves.

* `Dataset.IndexesBy`: the buckets of edges with a given end; `Dataset.indexesBy_outgoing`,
  `Dataset.indexesBy_incoming`: those of an indexed graph;
* `Dataset.IsFirst`: the first node with an index; `Dataset.node?_eq_some_iff`: lookups find it;
* `Dataset.indexes_ofGraph`: the index of a graph.
-/

namespace Retrace

namespace Dataset

variable {d : Dataset} {id : NodeId} {i : Nat} {n : Node}

/-! ### Buckets -/

/-- A bucket for each index holds the edges with this end, ascending; and the buckets of distinct
indices hold all edges together, each once. -/
structure IndexesBy (endpoint : Edge → NodeId) (edges : List Edge)
    (bucket : NodeId → List EdgeId) : Prop where
  ascending : ∀ id, (bucket id).Pairwise (· < ·)
  mem_iff : ∀ id e, e ∈ bucket id ↔ ∃ x, edges[e]? = some x ∧ endpoint x = id
  together : ∀ ids : List NodeId, ids.Nodup → (∀ x ∈ edges, endpoint x ∈ ids) →
    (ids.flatMap bucket).Perm (List.range edges.length)

/-- Ascending buckets of the right edges hold all edges together. -/
lemma IndexesBy.of_mem_iff {endpoint : Edge → NodeId} {edges : List Edge}
    {bucket : NodeId → List EdgeId} (hascending : ∀ id, (bucket id).Pairwise (· < ·))
    (hmem : ∀ id e, e ∈ bucket id ↔ ∃ x, edges[e]? = some x ∧ endpoint x = id) :
    IndexesBy endpoint edges bucket where
  ascending := hascending
  mem_iff := hmem
  together ids hnodup hcover := by
    have hdisjoint : ids.Pairwise (Function.onFun List.Disjoint bucket) := by
      refine hnodup.imp fun {a b} hab e ha hb => hab ?_
      obtain ⟨x, hx, rfl⟩ := (hmem a e).1 ha
      obtain ⟨y, hy, rfl⟩ := (hmem b e).1 hb
      rw [Option.some.inj (hx.symm.trans hy)]
    have hdistinct : (ids.flatMap bucket).Nodup :=
      List.nodup_flatMap.2 ⟨fun id _ => (hascending id).imp Nat.ne_of_lt, hdisjoint⟩
    refine (List.perm_ext_iff_of_nodup hdistinct List.nodup_range).2 fun e => ?_
    rw [List.mem_flatMap, List.mem_range]
    constructor
    · rintro ⟨id, -, he⟩
      obtain ⟨x, hx, -⟩ := (hmem id e).1 he
      exact (List.getElem?_eq_some_iff.1 hx).1
    · intro he
      exact ⟨endpoint edges[e], hcover _ (List.getElem_mem he),
        (hmem _ e).2 ⟨edges[e], List.getElem?_eq_getElem he, rfl⟩⟩

/-- The places that a selection of edges keeps are ascending. -/
lemma pairwise_places (edges : List Edge) (keep : Edge × EdgeId → Bool) :
    ((edges.zipIdx.filter keep).map (·.2)).Pairwise (· < ·) :=
  List.pairwise_map.2 ((pairwise_zipIdx edges).filter keep)

lemma indexesBy_outgoing (g : Graph) : IndexesBy (·.source) g.edges (ofGraph g).outgoing := by
  refine .of_mem_iff (fun id => ?_) fun id e => mem_outgoing
  rw [outgoing_ofGraph]
  exact pairwise_places _ _

lemma indexesBy_incoming (g : Graph) : IndexesBy (·.target) g.edges (ofGraph g).incoming := by
  refine .of_mem_iff (fun id => ?_) fun id e => mem_incoming
  rw [incoming_ofGraph]
  exact pairwise_places _ _

/-! ### First nodes -/

/-- The node with this number is the first one in step order that has the index. -/
structure IsFirst (d : Dataset) (id : NodeId) (i : Nat) (n : Node) : Prop where
  node : d.nodes[i]? = some n
  index : n.index = id
  least : ∀ j m, d.nodes[j]? = some m → m.index = id → i ≤ j

/-- The number that `IsFirst` speaks of is the least one with the index. -/
lemma isFirst_iff_getElem {hi : i < d.nodes.length} :
    d.IsFirst id i d.nodes[i]
      ↔ (d.nodes[i].index == id) = true
        ∧ ∀ j, (hj : j < i) → ¬ (d.nodes[j].index == id) = true := by
  rw [beq_iff_eq]
  constructor
  · intro h
    refine ⟨h.index, fun j hj heq => ?_⟩
    have hle := h.least j d.nodes[j] (List.getElem?_eq_getElem _) (beq_iff_eq.1 heq)
    omega
  · rintro ⟨hindex, hleast⟩
    refine ⟨List.getElem?_eq_getElem hi, hindex, fun j m hm heq => ?_⟩
    by_contra hlt
    obtain ⟨hj, rfl⟩ := List.getElem?_eq_some_iff.1 hm
    exact hleast j (by omega) (beq_iff_eq.2 heq)

/-- Lookups find the first node with an index. -/
lemma node?_eq_some_iff : d.node? id = some n ↔ ∃ i, d.IsFirst id i n := by
  rw [node?, List.find?_eq_some_iff_getElem]
  constructor
  · rintro ⟨hindex, i, hi, rfl, hleast⟩
    exact ⟨i, isFirst_iff_getElem.2 ⟨hindex, fun j hj => by simpa using hleast j hj⟩⟩
  · rintro ⟨i, h⟩
    obtain ⟨hi, rfl⟩ := List.getElem?_eq_some_iff.1 h.node
    obtain ⟨hindex, hleast⟩ := isFirst_iff_getElem.1 h
    exact ⟨hindex, i, hi, rfl, fun j hj => by simpa using hleast j hj⟩

lemma node?_eq_none_iff : d.node? id = none ↔ ∀ n ∈ d.nodes, n.index ≠ id := by
  simp [node?]

/-! ### The index of a graph -/

/-- **The index of a graph is faithful**: its nodes are those of the graph in the only step order,
which does not depend on the order of the data where all starts differ; its edges are those of the
graph; the buckets of an index, whether or not a node has it, hold the edges with this end; a lookup
finds the first node with an index, and nothing only if there is none; and the greatest start is
that of the last node. -/
theorem indexes_ofGraph (g : Graph) :
    (∀ ns, IsStepOrder g.nodes ns ↔ ns = (ofGraph g).nodes)
    ∧ (∀ h : Graph, h.nodes.Perm g.nodes → (g.nodes.map (·.intervalStart)).Nodup →
        (ofGraph h).nodes = (ofGraph g).nodes)
    ∧ (ofGraph g).edges = g.edges
    ∧ IndexesBy (·.source) g.edges (ofGraph g).outgoing
    ∧ IndexesBy (·.target) g.edges (ofGraph g).incoming
    ∧ (∀ id n, (ofGraph g).node? id = some n ↔ ∃ i, (ofGraph g).IsFirst id i n)
    ∧ (∀ id, (ofGraph g).node? id = none ↔ ∀ n ∈ g.nodes, n.index ≠ id)
    ∧ (ofGraph g).maxInterval
        = ((ofGraph g).nodes.getLast?.map (·.intervalStart)).getD 0 := by
  have horder : IsStepOrder g.nodes (ofGraph g).nodes := isStepOrder_stepOrder g.nodes
  refine ⟨fun ns => ⟨fun h => h.unique horder, fun h => h ▸ horder⟩,
    fun h hperm hstarts => stepOrder_eq_of_perm hperm hstarts, rfl, indexesBy_outgoing g,
    indexesBy_incoming g, fun id n => node?_eq_some_iff, fun id => ?_,
    lastStart_stepOrder g.nodes⟩
  rw [node?_eq_none_iff]
  exact forall_congr' fun n => imp_congr_left mem_nodes_ofGraph

/-- Two nodes have one index and one start, a node that starts earlier stands between them, and no
node has index nine. -/
def shuffled : Graph where
  nodes := [
    ⟨7, "late", .plain, 2, none, false⟩,
    ⟨3, "early", .plain, -1, none, false⟩,
    ⟨7, "late too", .merged, 2, some 1, false⟩]
  edges := [⟨7, 3, "", 1⟩, ⟨3, 9, "", 2⟩, ⟨7, 7, "", 3⟩, ⟨9, 7, "", 4⟩]

/-- As before, without the second of the two nodes. -/
def thinned : Graph := { shuffled with nodes := shuffled.nodes.take 2 }

theorem indexes_shuffled :
    (ofGraph shuffled).nodes.map (·.label) = ["early", "late", "late too"]
    ∧ IsStepOrder shuffled.nodes (ofGraph shuffled).nodes
    ∧ ([3, 7, 9].flatMap (ofGraph shuffled).outgoing).Perm [0, 1, 2, 3]
    ∧ ([3, 7, 9].flatMap (ofGraph shuffled).incoming).Perm [0, 1, 2, 3]
    ∧ (∃ i, (ofGraph shuffled).IsFirst 7 i ⟨7, "late", .plain, 2, none, false⟩)
    ∧ (ofGraph shuffled).node? 9 = none
    ∧ (ofGraph { thinned with nodes := thinned.nodes.reverse }).nodes
        = (ofGraph thinned).nodes := by
  obtain ⟨horder, -, -, houtgoing, hincoming, hfirst, hnone, -⟩ := indexes_ofGraph shuffled
  obtain ⟨-, hperm, -⟩ := indexes_ofGraph thinned
  have hends : ∀ x ∈ shuffled.edges,
      x.source ∈ [(3 : NodeId), 7, 9] ∧ x.target ∈ [(3 : NodeId), 7, 9] := by decide
  refine ⟨by cbv, (horder _).2 rfl,
    houtgoing.together [3, 7, 9] (by decide) fun x hx => (hends x hx).1,
    hincoming.together [3, 7, 9] (by decide) fun x hx => (hends x hx).2,
    (hfirst 7 _).1 (by cbv), (hnone 9).2 (by decide), hperm _ (List.reverse_perm _) (by decide)⟩

end Dataset

end Retrace
