import Retrace.Proofs.Graph.Defects
import Retrace.Proofs.Scene.Distances

/-!
Gaps between the rows.

Among all indices no row is left out, since an index of distance `k + 1` is the target of an edge
whose source has distance `k`.  The picture shows only the rows of nodes, and the search also walks
through indices that no node has; a row that only such indices stand in stays empty.

* `Dataset.Gapless`: the rows of the nodes have no gap;
* `Dataset.exists_rowOf?_of_succ`: among all indices no row is left out;
* `Dataset.gapless_of_shared`: there is no gap where indices without a node share their rows;
* `Dataset.Gapless.isGreatest_distance`: without gaps the last wave holds a node;
* `Dataset.gapless_iff`: where gaps come from, and that there are none without dangling edges;
  `Dataset.not_gapless_dropping`: a dangling edge makes one.
-/

namespace Retrace

namespace Dataset

/-- The rows of the nodes begin with row zero and leave none out. -/
def Gapless (d : Dataset) : Prop := ∀ row, row + 1 ∈ d.rows → row ∈ d.rows

variable {d : Dataset} {g : Graph} {root : Node} {id : NodeId} {row : Nat}

lemma Gapless.mem_of_le (h : d.Gapless) {below : Nat} (hbelow : below ∈ d.rows)
    (hle : row ≤ below) : row ∈ d.rows := by
  induction below with
  | zero => exact Nat.le_zero.1 hle ▸ hbelow
  | succ below ih =>
      rcases Nat.of_le_succ hle with hle | rfl
      · exact ih (h below hbelow) hle
      · exact hbelow

/-- The rows are those of the nodes. -/
lemma mem_rows_iff :
    row ∈ (ofGraph g).rows ↔ ∃ n ∈ (ofGraph g).nodes, (ofGraph g).rowOf? n.index = some row := by
  rw [rows, List.mem_map]
  refine exists_congr fun n => and_congr_right fun hn => ?_
  obtain ⟨r, hr⟩ := exists_rowOf?_of_mem hn
  rw [← rowOf?, hr, Option.getD_some, Option.some.injEq]

/-- What stands in a row is reached, or is a node one row below the greatest distance. -/
lemma reaches_or_eq_of_rowOf? (hroot : (ofGraph g).nodes.head? = some root)
    (hrow : (ofGraph g).rowOf? id = some row) :
    (ofGraph g).IsDistance root.index id row
      ∨ (∃ n ∈ (ofGraph g).nodes, n.index = id) ∧ row = (ofGraph g).waves.length := by
  by_cases hreaches : (ofGraph g).Reaches root.index id
  · obtain ⟨k, hk⟩ := hreaches.exists_isDistance
    rw [rowOf?_of_isDistance hroot hk, Option.some.injEq] at hrow
    exact .inl (hrow ▸ hk)
  · by_cases hnode : ∃ n ∈ (ofGraph g).nodes, n.index = id
    · obtain ⟨n, hn, rfl⟩ := hnode
      rw [rowOf?_of_not_reaches hroot hn hreaches, Option.some.injEq] at hrow
      exact .inr ⟨⟨n, hn, rfl⟩, hrow.symm⟩
    · rw [rowOf?_eq_none hroot hreaches fun n hn heq => hnode ⟨n, hn, heq⟩] at hrow
      cases hrow

/-- Among all indices no row is left out. -/
lemma exists_rowOf?_of_succ (h : (ofGraph g).rowOf? id = some (row + 1)) :
    ∃ i, (ofGraph g).rowOf? i = some row := by
  obtain ⟨root, hroot⟩ := exists_root_of_rowOf? h
  have hdistance : ∃ i, (ofGraph g).IsDistance root.index i row := by
    rcases reaches_or_eq_of_rowOf? hroot h with hid | ⟨-, hlength⟩
    · exact hid.exists_of_le (Nat.le_succ row)
    · -- the row of the unreached nodes is one below the last wave
      obtain ⟨last, hlast, hwaves⟩ := isGreatest_distance hroot
      obtain rfl : row = last := Nat.succ.inj (hlength.trans hwaves)
      exact hlast.1
  obtain ⟨i, hi⟩ := hdistance
  exact ⟨i, rowOf?_of_isDistance hroot hi⟩

/-- Without gaps below it, the last wave holds a node. -/
lemma Gapless.isGreatest_distance (h : (ofGraph g).Gapless)
    (hroot : (ofGraph g).nodes.head? = some root) {n : Node} (hn : n ∈ (ofGraph g).nodes)
    (hnever : ¬ (ofGraph g).Reaches root.index n.index) :
    ∃ last, IsGreatest
        {k | ∃ m ∈ (ofGraph g).nodes, (ofGraph g).IsDistance root.index m.index k} last
      ∧ (ofGraph g).waves.length = last + 1 := by
  obtain ⟨last, hlast, hwaves⟩ := Dataset.isGreatest_distance hroot
  have hbelow : last + 1 ∈ (ofGraph g).rows :=
    mem_rows_iff.2 ⟨n, hn, hwaves ▸ rowOf?_of_not_reaches hroot hn hnever⟩
  obtain ⟨m, hm, hrow⟩ := mem_rows_iff.1 (h last hbelow)
  refine ⟨last, ⟨⟨m, hm, ?_⟩, fun k ⟨m, _, hk⟩ => hlast.2 ⟨m.index, hk⟩⟩, hwaves⟩
  rcases reaches_or_eq_of_rowOf? hroot hrow with hdistance | ⟨-, hlength⟩
  · exact hdistance
  · omega

/-- Without dangling edges only nodes have a row. -/
lemma exists_node_of_rowOf? (hclean : ∀ e i, .danglingEdge e i ∉ (ofGraph g).diagnostics)
    (hrow : (ofGraph g).rowOf? id = some row) : ∃ n ∈ (ofGraph g).nodes, n.index = id := by
  obtain ⟨root, hroot⟩ := exists_root_of_rowOf? hrow
  rcases reaches_or_eq_of_rowOf? hroot hrow with hdistance | ⟨hnode, -⟩
  · cases row with
    | zero =>
        obtain rfl := isDistance_zero_iff.1 hdistance
        exact ⟨root, List.mem_of_mem_head? hroot, rfl⟩
    | succ row =>
        obtain ⟨e, he, htarget, -⟩ := hdistance.exists_edge
        exact exists_node_of_mem_edges hclean he (.inr htarget.symm)
  · exact hnode

/-- There is no gap where each index without a node shares its row with a node. -/
lemma gapless_of_shared
    (h : ∀ id row, (∀ n ∈ (ofGraph g).nodes, n.index ≠ id) → (ofGraph g).rowOf? id = some row →
      (∃ below ∈ (ofGraph g).rows, row < below) → row ∈ (ofGraph g).rows) :
    (ofGraph g).Gapless := by
  intro row hbelow
  obtain ⟨n, -, hrow⟩ := mem_rows_iff.1 hbelow
  obtain ⟨i, hi⟩ := exists_rowOf?_of_succ hrow
  by_cases hnode : ∃ m ∈ (ofGraph g).nodes, m.index = i
  · obtain ⟨m, hm, rfl⟩ := hnode
    exact mem_rows_iff.2 ⟨m, hm, hi⟩
  · exact h i row (fun m hm heq => hnode ⟨m, hm, heq⟩) hi ⟨row + 1, hbelow, Nat.lt_succ_self row⟩

/-- **Gaps come from dangling edges.**  The rows of the nodes have no gap iff each index without a
node that stands higher than some node shares its row with a node.  Without gaps the nodes that
edges do not lead to stand one row below the deepest node that they lead to; and without dangling
edges there are no gaps. -/
theorem gapless_iff (g : Graph) :
    ((ofGraph g).Gapless
      ↔ ∀ id row, (∀ n ∈ (ofGraph g).nodes, n.index ≠ id) → (ofGraph g).rowOf? id = some row →
          (∃ below ∈ (ofGraph g).rows, row < below) → row ∈ (ofGraph g).rows)
    ∧ ((ofGraph g).Gapless → ∀ root, (ofGraph g).nodes.head? = some root →
        ∀ n ∈ (ofGraph g).nodes, ¬ (ofGraph g).Reaches root.index n.index →
          ∃ last, IsGreatest
              {k | ∃ m ∈ (ofGraph g).nodes, (ofGraph g).IsDistance root.index m.index k} last
            ∧ (ofGraph g).rowOf? n.index = some (last + 1))
    ∧ ((∀ e i, .danglingEdge e i ∉ (ofGraph g).diagnostics) → (ofGraph g).Gapless) := by
  refine ⟨⟨?_, gapless_of_shared⟩, fun h root hroot n hn hnever => ?_,
    fun hclean => gapless_of_shared ?_⟩
  · rintro h id row - - ⟨below, hbelow, hlt⟩
    exact h.mem_of_le hbelow (Nat.le_of_lt hlt)
  · obtain ⟨last, hlast, hwaves⟩ := h.isGreatest_distance hroot hn hnever
    exact ⟨last, hlast, hwaves ▸ rowOf?_of_not_reaches hroot hn hnever⟩
  · intro id row hid hrow _
    obtain ⟨m, hm, heq⟩ := exists_node_of_rowOf? hclean hrow
    exact absurd heq (hid m hm)

/-- An index without a node shares its row with a node, and the last node is not reached. -/
def sharing : Graph where
  nodes := [
    ⟨0, "", .plain, 0, none, false⟩, ⟨1, "", .plain, 1, none, false⟩,
    ⟨9, "", .plain, 2, none, false⟩]
  edges := [⟨0, 1, "", -1⟩, ⟨0, 7, "", -1⟩]

/-- As before, without the edge that dangles. -/
def mended : Graph := { sharing with edges := [⟨0, 1, "", -1⟩] }

theorem gapless_sharing :
    (ofGraph sharing).diagnostics = [.danglingEdge 1 7] ∧ (ofGraph sharing).Gapless
    ∧ (∃ last, IsGreatest {k | ∃ m ∈ (ofGraph sharing).nodes,
          (ofGraph sharing).IsDistance 0 m.index k} last
        ∧ (ofGraph sharing).rowOf? 9 = some (last + 1))
    ∧ (ofGraph mended).diagnostics = [] ∧ (ofGraph mended).Gapless := by
  have hrows : (ofGraph sharing).rows = [0, 1, 2] := by cbv
  have hnodes : (ofGraph sharing).nodes = sharing.nodes := by cbv
  have hroot : (ofGraph sharing).nodes.head? = some ⟨0, "", .plain, 0, none, false⟩ := by
    rw [hnodes]
    rfl
  have hgapless : (ofGraph sharing).Gapless := by
    refine (gapless_iff sharing).1.2 ?_
    rintro id row - - ⟨below, hbelow, hlt⟩
    rw [hrows] at hbelow ⊢
    simp only [List.mem_cons, List.not_mem_nil, or_false] at hbelow ⊢
    omega
  have hclosed : ∀ e ∈ sharing.edges,
      e.source ∈ [(0 : NodeId), 1, 7] → e.target ∈ [(0 : NodeId), 1, 7] := by decide
  have hnever : ¬ (ofGraph sharing).Reaches 0 9 :=
    fun h => absurd (h.mem_of_closed (by decide) hclosed) (by decide)
  have hclean : (ofGraph mended).diagnostics = [] := by cbv
  refine ⟨by cbv, hgapless, ?_, hclean, (gapless_iff mended).2.2 fun e i h => ?_⟩
  · refine (gapless_iff sharing).2.1 hgapless _ hroot ⟨9, "", .plain, 2, none, false⟩ ?_ hnever
    rw [hnodes]
    decide
  · rw [hclean] at h
    cases h

/-- The only edge leads to an index that no node has. -/
def dropping : Graph where
  nodes := [⟨0, "", .plain, 0, none, false⟩, ⟨1, "", .plain, 1, none, false⟩]
  edges := [⟨0, 7, "", -1⟩]

/-- The index without a node takes row one for itself, and the node that is not reached stands in
row two. -/
theorem not_gapless_dropping : ¬ ∀ g, (ofGraph g).Gapless := by
  intro h
  have hrows : (ofGraph dropping).rows = [0, 2] := by cbv
  have hone : 1 ∈ (ofGraph dropping).rows := h dropping 1 (by rw [hrows]; decide)
  rw [hrows] at hone
  exact absurd hone (by decide)

end Dataset

end Retrace
