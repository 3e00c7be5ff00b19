import Mathlib.Tactic.Lemma
import Retrace.Dataset

/-!
The edges at an index of an indexed graph.

Indexing adds the edges one after the other, each at one of its ends.  The buckets are therefore
read off the list of edges itself:

* `outgoing_ofGraph`, `incoming_ofGraph`: a bucket holds the places of the edges with that end, in
  edge order, whether or not a node has the index;
* `mem_outgoing`, `mem_incoming`: the membership form;
* `firstOutgoing_eq`, `firstIncoming_eq`: the first place of a bucket is that of the first edge
  with that end.
-/

namespace Retrace

/-- The places in a list ascend. -/
lemma pairwise_zipIdx {α : Type} (l : List α) : l.zipIdx.Pairwise (·.2 < ·.2) := by
  rw [← List.pairwise_map, List.zipIdx_map_snd]
  exact List.pairwise_lt_range'

namespace Dataset

/-! ### Buckets -/

/-- Adding a list of edges appends to each bucket those with its end, in the order of the list. -/
lemma get_foldl_add (endpoint : Edge → NodeId) (i : NodeId) (es : List (Edge × EdgeId)) :
    ∀ a : Adjacency,
      (es.foldl (fun a x => a.add (endpoint x.1) x.2) a).get i
        = a.get i ++ (es.filter fun x => i = endpoint x.1).map (·.2) := by
  induction es with
  | nil => intro a; simp
  | cons x es ih =>
      intro a
      rw [List.foldl_cons, ih, Adjacency.get_add]
      by_cases h : i = endpoint x.1
      · rw [if_pos h, List.filter_cons_of_pos (by simpa using h), List.map_cons]
        simp
      · rw [if_neg h, List.filter_cons_of_neg (by simpa using h)]

/-- A bucket holds the places of the edges with that end, in edge order. -/
lemma get_indexBy (endpoint : Edge → NodeId) (i : NodeId) (edges : List Edge) :
    (indexBy endpoint edges).get i
      = (edges.zipIdx.filter fun x => i = endpoint x.1).map (·.2) := by
  have h := get_foldl_add endpoint i edges.zipIdx .empty
  simpa [indexBy] using h

lemma outgoing_ofGraph (g : Graph) (i : NodeId) :
    (ofGraph g).outgoing i = (g.edges.zipIdx.filter fun x => i = x.1.source).map (·.2) :=
  get_indexBy (·.source) i g.edges

lemma incoming_ofGraph (g : Graph) (i : NodeId) :
    (ofGraph g).incoming i = (g.edges.zipIdx.filter fun x => i = x.1.target).map (·.2) :=
  get_indexBy (·.target) i g.edges

/-! ### Membership -/

/-- The places in a bucket are those of the edges with that end. -/
lemma mem_bucket {endpoint : Edge → NodeId} {i : NodeId} {edges : List Edge} {id : EdgeId} :
    id ∈ (edges.zipIdx.filter fun x => i = endpoint x.1).map (·.2)
      ↔ ∃ e, edges[id]? = some e ∧ endpoint e = i := by
  simp only [List.mem_map, List.mem_filter, List.mem_zipIdx_iff_getElem?, decide_eq_true_eq,
    Prod.exists]
  constructor
  · rintro ⟨e, _, ⟨he, hi⟩, rfl⟩
    exact ⟨e, he, hi.symm⟩
  · rintro ⟨e, he, hi⟩
    exact ⟨e, id, ⟨he, hi.symm⟩, rfl⟩

lemma mem_outgoing {g : Graph} {i : NodeId} {id : EdgeId} :
    id ∈ (ofGraph g).outgoing i ↔ ∃ e, g.edges[id]? = some e ∧ e.source = i := by
  rw [outgoing_ofGraph]
  exact mem_bucket

lemma mem_incoming {g : Graph} {i : NodeId} {id : EdgeId} :
    id ∈ (ofGraph g).incoming i ↔ ∃ e, g.edges[id]? = some e ∧ e.target = i := by
  rw [incoming_ofGraph]
  exact mem_bucket

/-- An edge stands in the bucket of its source and in no other. -/
lemma mem_outgoing_iff {g : Graph} {id : EdgeId} {e : Edge} (he : g.edges[id]? = some e)
    (i : NodeId) : id ∈ (ofGraph g).outgoing i ↔ i = e.source := by
  simp [mem_outgoing, he, eq_comm]

/-- An edge stands in the bucket of its target and in no other. -/
lemma mem_incoming_iff {g : Graph} {id : EdgeId} {e : Edge} (he : g.edges[id]? = some e)
    (i : NodeId) : id ∈ (ofGraph g).incoming i ↔ i = e.target := by
  simp [mem_incoming, he, eq_comm]

/-! ### First edges -/

/-- The edge at the first place of a bucket is the first one with that end. -/
lemma head_bucket (endpoint : Edge → NodeId) (i : NodeId) (edges : List Edge) :
    (((edges.zipIdx.filter fun x => i = endpoint x.1).map (·.2)).head?.bind (edges[·]?))
      = edges.find? fun e => i = endpoint e := by
  have hfst : edges.find? (fun e => i = endpoint e)
      = (edges.zipIdx.find? fun x => i = endpoint x.1).map (·.1) := by
    calc edges.find? (fun e => i = endpoint e)
        = (edges.zipIdx.map Prod.fst).find? (fun e => i = endpoint e) := by
          rw [List.zipIdx_map_fst]
      _ = (edges.zipIdx.find? fun x => i = endpoint x.1).map (·.1) := List.find?_map
  rw [hfst, List.head?_map, List.head?_filter]
  cases hx : edges.zipIdx.find? fun x => i = endpoint x.1 with
  | none => rfl
  | some x =>
      have hmem : edges[x.2]? = some x.1 :=
        List.mem_zipIdx_iff_getElem?.1 (List.mem_of_find?_eq_some hx)
      simpa using hmem

lemma firstOutgoing_eq (g : Graph) (i : NodeId) :
    ((ofGraph g).outgoing i).head?.bind (ofGraph g).edge?
      = g.edges.find? fun e => i = e.source := by
  rw [outgoing_ofGraph]
  exact head_bucket (·.source) i g.edges

lemma firstIncoming_eq (g : Graph) (i : NodeId) :
    ((ofGraph g).incoming i).head?.bind (ofGraph g).edge?
      = g.edges.find? fun e => i = e.target := by
  rw [incoming_ofGraph]
  exact head_bucket (·.target) i g.edges

end Dataset

end Retrace
