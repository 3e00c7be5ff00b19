import Retrace.Proofs.Graph.Defects
import Retrace.Proofs.Graph.Indexing
import Retrace.Proofs.Scene.Evolution

/-!
Which edges have links, and what the links join.

A scene finds the ends of an edge by number and a dataset by node.  Both take the first node with an
index, so a link joins the particles of just those nodes that lookups in the dataset find; and since
an edge with a missing end has no link, the places of the links are not those of the edges, but
each link still bears the number of its edge.

* `Scene.numberOf?_eq_some_iff`: the number of the first node with an index;
* `Scene.mem_links_iff`, `Scene.exists_link_iff`: the links and the edges that have one;
* `Scene.links_ofDataset`: the scene of a dataset resolves ends as the dataset does;
* `Dataset.diagnostics_ofGraph`: the defects of a graph, and the edges without link that they name.
-/

namespace Retrace

namespace Scene

variable {d : Dataset} {g : Graph} {id : NodeId} {e : EdgeId} {i : Nat} {l : Link}

/-! ### Ends -/

/-- Scenes number the nodes as lookups find them. -/
lemma numberOf?_eq_some_iff : numberOf? d id = some i ↔ ∃ n, d.IsFirst id i n := by
  rw [numberOf?, List.findIdx?_eq_some_iff_getElem]
  constructor
  · rintro ⟨hi, h⟩
    exact ⟨d.nodes[i], Dataset.isFirst_iff_getElem.2 h⟩
  · rintro ⟨n, h⟩
    obtain ⟨hi, rfl⟩ := List.getElem?_eq_some_iff.1 h.node
    exact ⟨hi, Dataset.isFirst_iff_getElem.1 h⟩

/-- A link joins the first nodes with the indices of the ends of its edge, which are those that
lookups find. -/
lemma mem_links_iff : l ∈ linksOf d ↔ ∃ (x : Edge) (tail head : Node),
    d.edges[l.id]? = some x ∧ l.label = x.label
    ∧ (d.IsFirst x.source l.source tail ∧ d.node? x.source = some tail)
    ∧ d.IsFirst x.target l.target head ∧ d.node? x.target = some head := by
  rw [mem_linksOf_iff]
  constructor
  · rintro ⟨x, hx, hsource, htarget, hlabel⟩
    obtain ⟨tail, htail⟩ := numberOf?_eq_some_iff.1 hsource
    obtain ⟨head, hhead⟩ := numberOf?_eq_some_iff.1 htarget
    exact ⟨x, tail, head, hx, hlabel.symm, ⟨htail, Dataset.node?_eq_some_iff.2 ⟨_, htail⟩⟩, hhead,
      Dataset.node?_eq_some_iff.2 ⟨_, hhead⟩⟩
  · rintro ⟨x, tail, head, hx, hlabel, ⟨htail, -⟩, hhead, -⟩
    exact ⟨x, hx, numberOf?_eq_some_iff.2 ⟨tail, htail⟩, numberOf?_eq_some_iff.2 ⟨head, hhead⟩,
      hlabel.symm⟩

/-- An edge has a link iff both of its ends are nodes. -/
lemma exists_link_iff : (∃ l ∈ linksOf d, l.id = e) ↔ ∃ x, d.edges[e]? = some x
    ∧ (∃ n ∈ d.nodes, n.index = x.source) ∧ ∃ n ∈ d.nodes, n.index = x.target := by
  constructor
  · rintro ⟨l, hl, rfl⟩
    obtain ⟨x, tail, head, hx, -, ⟨htail, -⟩, hhead, -⟩ := mem_links_iff.1 hl
    exact ⟨x, hx, ⟨tail, List.mem_of_getElem? htail.node, htail.index⟩,
      ⟨head, List.mem_of_getElem? hhead.node, hhead.index⟩⟩
  · rintro ⟨x, hx, ⟨n, hn, hsource⟩, m, hm, htarget⟩
    obtain ⟨i, hi⟩ := exists_numberOf? hn
    obtain ⟨j, hj⟩ := exists_numberOf? hm
    exact ⟨⟨e, i, j, x.label⟩, mem_linksOf_iff.2 ⟨x, hx, hsource ▸ hi, htarget ▸ hj, rfl⟩, rfl⟩

/-- **Scenes resolve ends as datasets do**: the particles stand for the nodes in step order; there
is one link for each edge both of whose ends are nodes, in edge order; it bears the number and the
label of its edge, and joins the first nodes with the indices of the ends, which are those that
lookups find; and springs join what links join. -/
theorem links_ofDataset (d : Dataset) (width height : Float) (showEdgeLabels : Bool) :
    let s := ofDataset d width height showEdgeLabels
    s.particles.map (·.info) = d.nodes.map infoOf
    ∧ s.links.Pairwise (·.id < ·.id)
    ∧ (∀ e, (∃ l ∈ s.links, l.id = e) ↔ ∃ x, d.edges[e]? = some x
        ∧ (∃ n ∈ d.nodes, n.index = x.source) ∧ ∃ n ∈ d.nodes, n.index = x.target)
    ∧ (∀ l, l ∈ s.links ↔ ∃ (x : Edge) (tail head : Node),
        d.edges[l.id]? = some x ∧ l.label = x.label
        ∧ (d.IsFirst x.source l.source tail ∧ d.node? x.source = some tail)
        ∧ d.IsFirst x.target l.target head ∧ d.node? x.target = some head)
    ∧ ∀ i j, (i, j) ∈ s.springs ∨ (j, i) ∈ s.springs ↔ ∃ l ∈ s.links, l.joins i j = true := by
  intro s
  refine ⟨(standsFor_ofDataset d width height showEdgeLabels).infos, pairwise_linksOf d,
    fun e => exists_link_iff, fun l => mem_links_iff, fun i j => ?_⟩
  refine joined_springs_iff.trans (or_iff_right ?_)
  simp

/-- A node has the index of an earlier one, and later edges lead past an end that is missing. -/
def knotted : Graph where
  nodes := [
    ⟨4, "start", .plain, 0, none, false⟩, ⟨1, "first", .plain, 1, none, false⟩,
    ⟨1, "second", .plain, 2, none, false⟩, ⟨4, "third", .plain, 2, none, false⟩,
    ⟨1, "fourth", .merged, 3, none, false⟩]
  edges := [⟨4, 1, "x = 1;", 1⟩, ⟨7, 7, "", -1⟩, ⟨1, 8, "", 2⟩, ⟨1, 4, "x = 2;", 3⟩, ⟨8, 1, "", 4⟩]

example : linksOf (.ofGraph knotted) = [⟨0, 0, 1, "x = 1;"⟩, ⟨3, 1, 0, "x = 2;"⟩] := by cbv

/-! ### Edges without link -/

/-- An edge has no link iff one of its ends is collected as missing. -/
lemma forall_link_ne_iff :
    (e < g.edges.length ∧ ∀ l ∈ linksOf (.ofGraph g), l.id ≠ e)
      ↔ ∃ i, .danglingEdge e i ∈ (Dataset.ofGraph g).diagnostics := by
  constructor
  · rintro ⟨he, hnone⟩
    by_contra hends
    have hnode {i : NodeId} (hi : i = g.edges[e].source ∨ i = g.edges[e].target) :
        ∃ n ∈ (Dataset.ofGraph g).nodes, n.index = i := by
      by_contra hmissing
      exact hends ⟨i, Dataset.danglingEdge_mem_diagnostics_iff.2 ⟨g.edges[e],
        List.getElem?_eq_getElem he, hi, fun n hn heq => hmissing ⟨n, hn, heq⟩⟩⟩
    obtain ⟨l, hl, hle⟩ := exists_link_iff.2
      ⟨g.edges[e], List.getElem?_eq_getElem he, hnode (.inl rfl), hnode (.inr rfl)⟩
    exact hnone l hl hle
  · rintro ⟨i, hi⟩
    obtain ⟨x, hx, hend, hmissing⟩ := Dataset.danglingEdge_mem_diagnostics_iff.1 hi
    refine ⟨(List.getElem?_eq_some_iff.1 hx).1, fun l hl hle => ?_⟩
    obtain ⟨y, hy, ⟨n, hn, hsource⟩, m, hm, htarget⟩ := exists_link_iff.1 ⟨l, hl, hle⟩
    obtain rfl := Option.some.inj (hx.symm.trans hy)
    rcases hend with rfl | rfl
    · exact hmissing n hn hsource
    · exact hmissing m hm htarget

end Scene

namespace Dataset

/-- **The defects are all and only those of the data**: first one for each node whose index stands
at an earlier step, in step order, then one for each end of an edge that no node has, in edge order
and the source first.  So there are none iff the indices of the nodes differ and both ends of each
edge are nodes; and the edges that a scene leaves out are those whose ends are collected. -/
theorem diagnostics_ofGraph (g : Graph) (width height : Float) (showEdgeLabels : Bool) :
    ((ofGraph g).diagnostics
      = (repeats ((ofGraph g).nodes.map (·.index))).map .duplicateNode
        ++ g.edges.zipIdx.flatMap fun x =>
            (missingEnds (ofGraph g).nodes x.1).map (.danglingEdge x.2))
    ∧ ((ofGraph g).diagnostics = []
      ↔ (g.nodes.map (·.index)).Nodup
        ∧ ∀ x ∈ g.edges,
          (∃ n ∈ g.nodes, n.index = x.source) ∧ ∃ n ∈ g.nodes, n.index = x.target)
    ∧ ∀ e, (e < g.edges.length
          ∧ ∀ l ∈ (Scene.ofDataset (ofGraph g) width height showEdgeLabels).links, l.id ≠ e)
        ↔ ∃ i, .danglingEdge e i ∈ (ofGraph g).diagnostics :=
  ⟨diagnostics_eq g, diagnostics_eq_nil_iff g, fun _ => Scene.forall_link_ne_iff⟩

/-- The repeated indices of the knotted graph come once for each time, and its loop twice. -/
example : (ofGraph Scene.knotted).diagnostics = [
    .duplicateNode 1, .duplicateNode 4, .duplicateNode 1,
    .danglingEdge 1 7, .danglingEdge 1 7, .danglingEdge 2 8, .danglingEdge 4 8] := by cbv

end Dataset

end Retrace
