import Mathlib.Tactic.ByContra
import Retrace.Proofs.Graph.StepOrder

/-!
What the collected defects say of a graph.

* `duplicates_eq_nil_iff`: no duplicate is collected iff the indices differ from each other and
  from those known before; `nodup_index_of_not_mem`: then the indices of the graph differ;
* `place_eq_of_index_eq`: without defects an index stands at one place only;
* `danglingEdge_mem_diagnostics_iff`: an end of an edge is collected iff no node has it, and so
  without such a defect there is a node at both ends of each edge (`exists_node_of_mem_edges`);
* `repeats`, `missingEnds`: the indices that repeat and the ends that no node has;
  `diagnostics_eq`: all defects in order, read off these; `diagnostics_eq_nil_iff`: when there are
  none.
-/

namespace Retrace

namespace Dataset

lemma duplicates_eq_nil_iff (ns : List Node) :
    ∀ known : List NodeId, duplicates known ns = []
      ↔ (ns.map (·.index)).Nodup ∧ ∀ n ∈ ns, n.index ∉ known := by
  induction ns with
  | nil => intro known; simp [duplicates]
  | cons n ns ih =>
      intro known
      by_cases hn : n.index ∈ known
      · simp [duplicates, hn]
      · rw [duplicates, if_neg hn, ih, List.map_cons, List.nodup_cons]
        simp only [List.mem_map, List.mem_cons, not_or, forall_eq_or_imp]
        constructor
        · rintro ⟨hnodup, hmore⟩
          refine ⟨⟨?_, hnodup⟩, hn, fun m hm => (hmore m hm).2⟩
          rintro ⟨m, hm, heq⟩
          exact (hmore m hm).1 heq
        · rintro ⟨⟨hfresh, hnodup⟩, -, hmore⟩
          exact ⟨hnodup, fun m hm => ⟨fun heq => hfresh ⟨m, hm, heq⟩, hmore m hm⟩⟩

/-- Only duplicates are collected as duplicates. -/
lemma eq_duplicateNode_of_mem {x : Diagnostic} (ns : List Node) :
    ∀ known : List NodeId, x ∈ duplicates known ns → ∃ i, x = .duplicateNode i := by
  induction ns with
  | nil => intro known hx; cases hx
  | cons n ns ih =>
      intro known hx
      rw [duplicates] at hx
      split at hx
      · rcases List.mem_cons.1 hx with rfl | hx
        · exact ⟨n.index, rfl⟩
        · exact ih known hx
      · exact ih _ hx

/-- Without duplicates among the defects the indices of the nodes differ. -/
lemma nodup_index_of_not_mem {g : Graph}
    (h : ∀ i, .duplicateNode i ∉ (ofGraph g).diagnostics) :
    ((ofGraph g).nodes.map (·.index)).Nodup := by
  have hdup : duplicates [] (stepOrder g.nodes) = [] := by
    rw [List.eq_nil_iff_forall_not_mem]
    intro x hx
    obtain ⟨i, rfl⟩ := eq_duplicateNode_of_mem _ _ hx
    exact h i (List.mem_append_left _ hx)
  exact ((duplicates_eq_nil_iff _ _).1 hdup).1

/-- Without defects the indices of the nodes differ. -/
lemma nodup_index_of_diagnostics {g : Graph} (hclean : (ofGraph g).diagnostics = []) :
    ((ofGraph g).nodes.map (·.index)).Nodup :=
  nodup_index_of_not_mem fun i hi => by simp [hclean] at hi

/-- Where the indices of the nodes differ, an index stands at one place only. -/
lemma place_eq_of_index_eq {d : Dataset} (hnodup : (d.nodes.map (·.index)).Nodup) {p q : Nat}
    {m n : Node} (hm : d.nodes[p]? = some m) (hn : d.nodes[q]? = some n)
    (h : m.index = n.index) : p = q := by
  have hp : p < (d.nodes.map (·.index)).length := by
    rw [List.length_map]
    exact (List.getElem?_eq_some_iff.1 hm).1
  refine (List.getElem?_inj hp hnodup).1 ?_
  rw [List.getElem?_map, List.getElem?_map, hm, hn, Option.map_some, Option.map_some, h]

/-! ### Ends of edges -/

lemma mem_danglingEnds_iff {nodes : List Node} {id : EdgeId} {e : Edge} {x : Diagnostic} :
    x ∈ danglingEnds nodes id e
      ↔ ∃ i, x = .danglingEdge id i ∧ (i = e.source ∨ i = e.target)
          ∧ ∀ n ∈ nodes, n.index ≠ i := by
  simp only [danglingEnds, List.mem_map, List.mem_filter, List.mem_cons, List.not_mem_nil, or_false,
    Bool.not_eq_true', List.any_eq_false, beq_iff_eq]
  constructor
  · rintro ⟨i, ⟨hend, hnone⟩, rfl⟩
    exact ⟨i, rfl, hend, hnone⟩
  · rintro ⟨i, rfl, hend, hnone⟩
    exact ⟨i, ⟨hend, hnone⟩, rfl⟩

/-- An end of an edge is collected iff no node has its index. -/
lemma danglingEdge_mem_diagnostics_iff {g : Graph} {id : EdgeId} {i : NodeId} :
    .danglingEdge id i ∈ (ofGraph g).diagnostics
      ↔ ∃ e, g.edges[id]? = some e ∧ (i = e.source ∨ i = e.target)
          ∧ ∀ n ∈ (ofGraph g).nodes, n.index ≠ i := by
  have hends : .danglingEdge id i ∈ (ofGraph g).diagnostics
      ↔ .danglingEdge id i
          ∈ g.edges.zipIdx.flatMap fun x => danglingEnds (ofGraph g).nodes x.2 x.1 := by
    refine ⟨fun h => (List.mem_append.1 h).resolve_left fun hdup => ?_, List.mem_append_right _⟩
    obtain ⟨j, hj⟩ := eq_duplicateNode_of_mem _ _ hdup
    cases hj
  rw [hends, List.mem_flatMap]
  constructor
  · rintro ⟨⟨e, id'⟩, he, hmem⟩
    obtain ⟨j, hj, hend, hnone⟩ := mem_danglingEnds_iff.1 hmem
    obtain ⟨rfl, rfl⟩ := Diagnostic.danglingEdge.inj hj
    exact ⟨e, List.mem_zipIdx_iff_getElem?.1 he, hend, hnone⟩
  · rintro ⟨e, he, hend, hnone⟩
    exact ⟨(e, id), List.mem_zipIdx_iff_getElem?.2 he,
      mem_danglingEnds_iff.2 ⟨i, rfl, hend, hnone⟩⟩

/-- Without dangling edges among the defects there are nodes at both ends of each edge. -/
lemma exists_node_of_mem_edges {g : Graph}
    (h : ∀ id i, .danglingEdge id i ∉ (ofGraph g).diagnostics) {e : Edge} (he : e ∈ g.edges)
    {i : NodeId} (hi : i = e.source ∨ i = e.target) : ∃ n ∈ (ofGraph g).nodes, n.index = i := by
  obtain ⟨id, hid⟩ := List.mem_iff_getElem?.1 he
  by_contra hnone
  refine h id i (danglingEdge_mem_diagnostics_iff.2 ⟨e, hid, hi, fun n hn heq => ?_⟩)
  exact hnone ⟨n, hn, heq⟩

/-! ### All defects -/

/-- The indices that stand at an earlier place as well, once for each place where they do, in the
order of these places. -/
def repeats (ids : List NodeId) : List NodeId :=
  (ids.zipIdx.filter fun x => x.1 ∈ ids.take x.2).map (·.1)

/-- The ends of an edge that no node has, the source first; a loop may list its end twice. -/
def missingEnds (nodes : List Node) (e : Edge) : List NodeId :=
  (if ∃ n ∈ nodes, n.index = e.source then [] else [e.source])
    ++ if ∃ n ∈ nodes, n.index = e.target then [] else [e.target]

/-- While the nodes are gone through, the known indices are those of the earlier places. -/
lemma duplicates_eq (ns : List Node) : ∀ earlier known : List NodeId,
    (∀ i, i ∈ known ↔ i ∈ earlier) →
      duplicates known ns
        = (((ns.map (·.index)).zipIdx earlier.length).filter fun x =>
            x.1 ∈ (earlier ++ ns.map (·.index)).take x.2).map fun x => .duplicateNode x.1 := by
  induction ns with
  | nil => intro earlier known _; rfl
  | cons n ns ih =>
      intro earlier known hknown
      -- the front node goes over to the earlier places, whether or not it makes an index known
      have hnext : ∀ known', (∀ i, i ∈ known' ↔ i ∈ earlier ++ [n.index]) → duplicates known' ns
          = (((ns.map (·.index)).zipIdx (earlier.length + 1)).filter fun x =>
              x.1 ∈ (earlier ++ n.index :: ns.map (·.index)).take x.2).map
                fun x => .duplicateNode x.1 := by
        intro known' hknown'
        have h := ih (earlier ++ [n.index]) known' hknown'
        rwa [List.length_append, List.append_assoc, List.singleton_append] at h
      have hhead : (earlier ++ n.index :: ns.map (·.index)).take earlier.length = earlier :=
        List.take_left
      rw [duplicates, List.map_cons, List.zipIdx_cons, List.filter_cons, hhead]
      by_cases hn : n.index ∈ known
      · have hn' := (hknown _).1 hn
        rw [if_pos hn, if_pos (decide_eq_true hn'), List.map_cons, hnext known fun i => ?_]
        simp only [List.mem_append, List.mem_singleton, hknown]
        exact ⟨.inl, fun h => h.elim id fun heq => heq ▸ hn'⟩
      · have hn' : n.index ∉ earlier := fun h => hn ((hknown _).2 h)
        rw [if_neg hn, if_neg (by simpa using hn'), hnext (n.index :: known) fun i => ?_]
        rw [List.mem_cons, List.mem_append, List.mem_singleton, hknown, or_comm]

lemma danglingEnds_eq (nodes : List Node) (id : EdgeId) (e : Edge) :
    danglingEnds nodes id e = (missingEnds nodes e).map (.danglingEdge id) := by
  have hany (i : NodeId) : nodes.any (·.index == i) = decide (∃ n ∈ nodes, n.index = i) := by
    simp [List.any_eq]
  rw [danglingEnds, missingEnds]
  congr 1
  by_cases hsource : ∃ n ∈ nodes, n.index = e.source <;>
    by_cases htarget : ∃ n ∈ nodes, n.index = e.target <;>
      simp [hany, hsource, htarget]

/-- The defects of a graph: first the repeated indices in step order, then the missing ends in edge
order. -/
lemma diagnostics_eq (g : Graph) :
    (ofGraph g).diagnostics
      = (repeats ((ofGraph g).nodes.map (·.index))).map .duplicateNode
        ++ g.edges.zipIdx.flatMap fun x =>
            (missingEnds (ofGraph g).nodes x.1).map (.danglingEdge x.2) := by
  have hduplicates := duplicates_eq (ofGraph g).nodes [] [] fun _ => Iff.rfl
  rw [repeats, List.map_map]
  refine congrArg₂ (· ++ ·) hduplicates ?_
  exact congrArg (g.edges.zipIdx.flatMap ·) (funext fun x => danglingEnds_eq _ x.2 x.1)

/-- There are no defects iff the indices differ and both ends of each edge are nodes. -/
lemma diagnostics_eq_nil_iff (g : Graph) :
    (ofGraph g).diagnostics = []
      ↔ (g.nodes.map (·.index)).Nodup
        ∧ ∀ e ∈ g.edges,
          (∃ n ∈ g.nodes, n.index = e.source) ∧ ∃ n ∈ g.nodes, n.index = e.target := by
  have hnodup : ((ofGraph g).nodes.map (·.index)).Nodup ↔ (g.nodes.map (·.index)).Nodup :=
    ((List.mergeSort_perm g.nodes _).map _).nodup_iff
  have hnode (i : NodeId) :
      (∃ n ∈ (ofGraph g).nodes, n.index = i) ↔ ∃ n ∈ g.nodes, n.index = i :=
    exists_congr fun n => and_congr_left' mem_nodes_ofGraph
  constructor
  · intro hclean
    have hends : ∀ id i, .danglingEdge id i ∉ (ofGraph g).diagnostics :=
      fun id i h => by simp [hclean] at h
    refine ⟨hnodup.1 (nodup_index_of_diagnostics hclean), fun e he => ⟨?_, ?_⟩⟩
    · exact (hnode _).1 (exists_node_of_mem_edges hends he (.inl rfl))
    · exact (hnode _).1 (exists_node_of_mem_edges hends he (.inr rfl))
  · rintro ⟨hdistinct, hends⟩
    refine List.append_eq_nil_iff.2 ⟨?_, List.flatMap_eq_nil_iff.2 fun x hx => ?_⟩
    · exact (duplicates_eq_nil_iff _ _).2 ⟨hnodup.2 hdistinct, fun _ _ => List.not_mem_nil⟩
    · obtain ⟨hsource, htarget⟩ :=
        hends x.1 (List.mem_of_getElem? (List.mem_zipIdx_iff_getElem?.1 hx))
      refine (danglingEnds_eq (ofGraph g).nodes x.2 x.1).trans ?_
      rw [missingEnds, if_pos ((hnode _).2 hsource), if_pos ((hnode _).2 htarget)]
      rfl

end Dataset

end Retrace
