import Mathlib.Data.List.Permutation
import Mathlib.Data.Nat.Find
import Mathlib.Order.Bounds.Basic
import Mathlib.Tactic.Lemma
import Retrace.Proofs.Graph.Incidence
import Retrace.Scene.Layering

/-!
Rows are distances.

An edge leads from one index to another whether or not nodes have these indices, and so does the
search for the rows.  Each of its waves holds the indices of one distance from the first node, which
is shown in three steps.

* **Distances.** `Dataset.Leads` counts the edges of a path; `Dataset.IsDistance` takes the fewest,
  and an index of distance `k + 1` is the target of an edge whose source has distance `k`
  (`IsDistance.exists_edge`), so no distance is left out (`IsDistance.exists_of_le`).
* **Waves.** `Dataset.Explored` is the invariant of the search: what has been seen is what lies
  within a distance, and the frontier is what lies at it.  `Explored.next` keeps it, and so wave
  `k` holds the indices of distance `k` (`mem_wavesFrom_iff`).
* **Rows.** `rowOf?_of_isDistance`: a reached index stands in the row of its distance;
  `isGreatest_distance`: the last wave has the greatest distance; `rowOf_eq_distance` puts the rows
  of all indices together.
-/

namespace Retrace

namespace Dataset

/-! ### Distances -/

/-- So many edges lead from the start to an index.  An index on the way need not be that of a
node. -/
inductive Leads (d : Dataset) (start : NodeId) : Nat → NodeId → Prop
  | refl : d.Leads start 0 start
  | step {k : Nat} {e : Edge} (h : d.Leads start k e.source) (he : e ∈ d.edges) :
    d.Leads start (k + 1) e.target

/-- Edges lead from the start to an index. -/
def Reaches (d : Dataset) (start id : NodeId) : Prop := ∃ k, d.Leads start k id

/-- The fewest edges that lead from the start to an index are so many. -/
def IsDistance (d : Dataset) (start id : NodeId) (k : Nat) : Prop :=
  IsLeast {j | d.Leads start j id} k

variable {d : Dataset} {g : Graph} {start id : NodeId} {j k : Nat}

lemma IsDistance.reaches (h : d.IsDistance start id k) : d.Reaches start id := ⟨k, h.1⟩

lemma Reaches.exists_isDistance (h : d.Reaches start id) : ∃ k, d.IsDistance start id k := by
  classical
  exact ⟨Nat.find h, Nat.find_spec h, fun _ hj => Nat.find_min' h hj⟩

/-- What is closed under edges is not left. -/
lemma Reaches.mem_of_closed {ids : List NodeId} (h : d.Reaches start id) (hstart : start ∈ ids)
    (hclosed : ∀ e ∈ d.edges, e.source ∈ ids → e.target ∈ ids) : id ∈ ids := by
  obtain ⟨k, hk⟩ := h
  induction hk with
  | refl => exact hstart
  | step _ he ih => exact hclosed _ he ih

lemma isDistance_zero_iff : d.IsDistance start id 0 ↔ id = start := by
  constructor
  · rintro ⟨h, -⟩
    cases h
    rfl
  · rintro rfl
    exact ⟨.refl, fun _ _ => Nat.zero_le _⟩

/-- The last edge of a shortest path continues a shortest path. -/
lemma IsDistance.exists_edge (h : d.IsDistance start id (k + 1)) :
    ∃ e ∈ d.edges, e.target = id ∧ d.IsDistance start e.source k := by
  obtain ⟨hleads, hleast⟩ := h
  cases hleads with
  | @step _ e hsource he =>
      refine ⟨e, he, rfl, hsource, fun j hj => ?_⟩
      exact Nat.le_of_succ_le_succ (hleast (Leads.step hj he))

/-- Distances leave nothing out. -/
lemma IsDistance.exists_of_le (h : d.IsDistance start id k) (hj : j ≤ k) :
    ∃ i, d.IsDistance start i j := by
  induction k generalizing id with
  | zero => exact ⟨id, Nat.le_zero.1 hj ▸ h⟩
  | succ k ih =>
      rcases Nat.of_le_succ hj with hlt | rfl
      · obtain ⟨e, -, -, hsource⟩ := h.exists_edge
        exact ih hsource hlt
      · exact ⟨id, h⟩

/-! ### Waves -/

/-- The targets of edges from the frontier that have not been seen. -/
lemma mem_nextWave_iff {seen frontier : List NodeId} :
    id ∈ (ofGraph g).nextWave seen frontier
      ↔ id ∉ seen ∧ ∃ e ∈ g.edges, e.source ∈ frontier ∧ e.target = id := by
  simp only [nextWave, successors, edge?, List.mem_eraseDups, List.mem_filter, List.mem_flatMap,
    List.mem_map, List.mem_filterMap, mem_outgoing, decide_eq_true_eq]
  rw [and_comm]
  refine and_congr_right fun _ => ?_
  constructor
  · rintro ⟨source, hsource, e, ⟨place, ⟨e', he', rfl⟩, he⟩, htarget⟩
    obtain rfl := Option.some.inj (he'.symm.trans he)
    exact ⟨e', List.mem_of_getElem? he, hsource, htarget⟩
  · rintro ⟨e, he, hsource, htarget⟩
    obtain ⟨place, hplace⟩ := List.mem_iff_getElem?.1 he
    exact ⟨e.source, hsource, e, ⟨place, ⟨e, hplace, rfl⟩, hplace⟩, htarget⟩

/-- What lies within a distance has been seen, and what lies at it is the frontier. -/
structure Explored (g : Graph) (start : NodeId) (k : Nat) (seen frontier : List NodeId) : Prop where
  seen : ∀ id, id ∈ seen ↔ ∃ j ≤ k, (ofGraph g).Leads start j id
  frontier : ∀ id, id ∈ frontier ↔ (ofGraph g).IsDistance start id k

lemma explored_start (g : Graph) (start : NodeId) : Explored g start 0 [start] [start] where
  seen id := by
    rw [List.mem_singleton]
    constructor
    · rintro rfl
      exact ⟨0, Nat.le_refl 0, .refl⟩
    · rintro ⟨j, hj, hleads⟩
      obtain rfl := Nat.le_zero.1 hj
      cases hleads
      rfl
  frontier id := by rw [List.mem_singleton, isDistance_zero_iff]

variable {seen frontier : List NodeId}

/-- The next wave holds what lies one edge further. -/
lemma Explored.mem_nextWave (h : Explored g start k seen frontier) :
    id ∈ (ofGraph g).nextWave seen frontier ↔ (ofGraph g).IsDistance start id (k + 1) := by
  rw [mem_nextWave_iff, h.seen]
  constructor
  · rintro ⟨hunseen, e, he, hsource, rfl⟩
    refine ⟨Leads.step ((h.frontier _).1 hsource).1 he, fun j hj => Nat.succ_le_of_lt ?_⟩
    exact Nat.lt_of_not_le fun hle => hunseen ⟨j, hle, hj⟩
  · intro hdistance
    obtain ⟨e, he, htarget, hsource⟩ := hdistance.exists_edge
    refine ⟨?_, e, he, (h.frontier _).2 hsource, htarget⟩
    rintro ⟨j, hle, hj⟩
    exact absurd (hdistance.2 hj) (Nat.not_le_of_lt (Nat.lt_succ_of_le hle))

/-- With the next wave what lies one edge further has been seen too. -/
lemma Explored.next (h : Explored g start k seen frontier) :
    Explored g start (k + 1) (seen ++ (ofGraph g).nextWave seen frontier)
      ((ofGraph g).nextWave seen frontier) where
  seen id := by
    rw [List.mem_append, h.mem_nextWave, h.seen]
    constructor
    · rintro (⟨j, hle, hj⟩ | hdistance)
      · exact ⟨j, Nat.le_succ_of_le hle, hj⟩
      · exact ⟨k + 1, Nat.le_refl _, hdistance.1⟩
    · rintro ⟨j, hle, hj⟩
      by_cases hnear : ∃ i ≤ k, (ofGraph g).Leads start i id
      · exact .inl hnear
      · -- no shorter path is left, so the path of length `j` is a shortest one
        have hfar : ∀ i, (ofGraph g).Leads start i id → k + 1 ≤ i :=
          fun i hi => Nat.succ_le_of_lt (Nat.lt_of_not_le fun hi' => hnear ⟨i, hi', hi⟩)
        obtain rfl := Nat.le_antisymm hle (hfar j hj)
        exact .inr ⟨hj, hfar⟩
  frontier id := h.mem_nextWave

/-- **Waves are distances**: wave `r` of the search from a frontier of distance `k` holds the
indices of distance `k + r`. -/
lemma mem_wavesFrom_iff (h : Explored g start k seen frontier) (r : Nat) :
    (∃ wave, ((ofGraph g).wavesFrom seen frontier)[r]? = some wave ∧ id ∈ wave)
      ↔ (ofGraph g).IsDistance start id (k + r) := by
  fun_induction (ofGraph g).wavesFrom seen frontier generalizing k r with
  | case1 seen frontier hnext =>
      cases r with
      | zero => simpa using h.frontier id
      | succ r =>
          -- nothing lies one edge further, and so nothing lies beyond
          have hnone : ¬ (ofGraph g).IsDistance start id (k + (r + 1)) := by
            intro hdistance
            obtain ⟨i, hi⟩ := hdistance.exists_of_le (j := k + 1) (by omega)
            rw [← h.mem_nextWave, hnext] at hi
            exact List.not_mem_nil hi
          simpa using hnone
  | case2 seen frontier first more hnext ih =>
      cases r with
      | zero => simpa using h.frontier id
      | succ r =>
          have hstep := h.next
          rw [hnext] at hstep
          rw [List.getElem?_cons_succ, ih hstep r, Nat.add_right_comm, Nat.add_assoc]

lemma ne_nil_of_mem_wavesFrom (hfrontier : frontier ≠ []) :
    ∀ wave ∈ d.wavesFrom seen frontier, wave ≠ [] := by
  fun_induction d.wavesFrom seen frontier with
  | case1 => simpa using hfrontier
  | case2 seen frontier first more hnext ih =>
      exact List.forall_mem_cons.2 ⟨hfrontier, ih (List.cons_ne_nil _ _)⟩

/-! ### Rows -/

variable {root : Node}

lemma mem_waves_iff (hroot : (ofGraph g).nodes.head? = some root) (r : Nat) :
    (∃ wave, (ofGraph g).waves[r]? = some wave ∧ id ∈ wave)
      ↔ (ofGraph g).IsDistance root.index id r := by
  obtain ⟨more, hnodes⟩ := List.head?_eq_some_iff.1 hroot
  have hwaves : _ ↔ (ofGraph g).IsDistance root.index id (0 + r) :=
    mem_wavesFrom_iff (explored_start g root.index) r
  rw [Nat.zero_add] at hwaves
  rw [waves, hnodes]
  exact hwaves

/-- The wave of an index is that of its distance. -/
lemma findIdx?_waves_eq_some_iff (hroot : (ofGraph g).nodes.head? = some root) {r : Nat} :
    (ofGraph g).waves.findIdx? (·.contains id) = some r
      ↔ (ofGraph g).IsDistance root.index id r := by
  rw [← mem_waves_iff hroot, List.findIdx?_eq_some_iff_getElem]
  constructor
  · rintro ⟨hr, hmem, -⟩
    exact ⟨_, List.getElem?_eq_getElem hr, by simpa using hmem⟩
  · rintro ⟨wave, hwave, hmem⟩
    obtain ⟨hr, rfl⟩ := List.getElem?_eq_some_iff.1 hwave
    refine ⟨hr, by simpa using hmem, fun j hj hmem' => ?_⟩
    -- an index of two waves would have two distances
    have hdistance := (mem_waves_iff hroot r).1 ⟨_, hwave, hmem⟩
    have hdistance' := (mem_waves_iff hroot j).1
      ⟨_, List.getElem?_eq_getElem (Nat.lt_trans hj hr), by simpa using hmem'⟩
    exact absurd (hdistance.unique hdistance') (Nat.ne_of_gt hj)

lemma findIdx?_waves_eq_none_iff (hroot : (ofGraph g).nodes.head? = some root) :
    (ofGraph g).waves.findIdx? (·.contains id) = none
      ↔ ¬ (ofGraph g).Reaches root.index id := by
  constructor
  · intro hnone hreaches
    obtain ⟨k, hk⟩ := hreaches.exists_isDistance
    rw [(findIdx?_waves_eq_some_iff hroot).2 hk] at hnone
    cases hnone
  · intro hnever
    cases hwave : (ofGraph g).waves.findIdx? (·.contains id) with
    | none => rfl
    | some r => exact absurd ((findIdx?_waves_eq_some_iff hroot).1 hwave).reaches hnever

/-- A reached index stands in the row of its distance. -/
lemma rowOf?_of_isDistance (hroot : (ofGraph g).nodes.head? = some root) {r : Nat}
    (h : (ofGraph g).IsDistance root.index id r) : (ofGraph g).rowOf? id = some r := by
  rw [rowOf?, rowAmong, (findIdx?_waves_eq_some_iff hroot).2 h]

/-- A node that is not reached stands below all waves. -/
lemma rowOf?_of_not_reaches (hroot : (ofGraph g).nodes.head? = some root) {n : Node}
    (hn : n ∈ (ofGraph g).nodes) (h : ¬ (ofGraph g).Reaches root.index n.index) :
    (ofGraph g).rowOf? n.index = some (ofGraph g).waves.length := by
  have hnode : (ofGraph g).nodes.any (·.index == n.index) = true :=
    List.any_eq_true.2 ⟨n, hn, beq_self_eq_true _⟩
  rw [rowOf?, rowAmong, (findIdx?_waves_eq_none_iff hroot).2 h]
  exact if_pos hnode

/-- Each node has a row. -/
lemma exists_rowOf?_of_mem {n : Node} (hn : n ∈ (ofGraph g).nodes) :
    ∃ row, (ofGraph g).rowOf? n.index = some row := by
  have hroot := List.head?_eq_some_head (List.ne_nil_of_mem hn)
  generalize (ofGraph g).nodes.head _ = root at hroot
  by_cases hreaches : (ofGraph g).Reaches root.index n.index
  · obtain ⟨k, hk⟩ := hreaches.exists_isDistance
    exact ⟨k, rowOf?_of_isDistance hroot hk⟩
  · exact ⟨_, rowOf?_of_not_reaches hroot hn hreaches⟩

/-- An index that is neither reached nor that of a node has no row. -/
lemma rowOf?_eq_none (hroot : (ofGraph g).nodes.head? = some root)
    (h : ¬ (ofGraph g).Reaches root.index id) (hid : ∀ n ∈ (ofGraph g).nodes, n.index ≠ id) :
    (ofGraph g).rowOf? id = none := by
  have hnode : ¬ (ofGraph g).nodes.any (·.index == id) = true := by
    rw [List.any_eq_true]
    rintro ⟨n, hn, heq⟩
    exact hid n hn (eq_of_beq heq)
  rw [rowOf?, rowAmong, (findIdx?_waves_eq_none_iff hroot).2 h]
  exact if_neg hnode

lemma rowOf?_of_nodes_eq_nil (hnone : (ofGraph g).nodes = []) (id : NodeId) :
    (ofGraph g).rowOf? id = none := by
  rw [rowOf?, waves, hnone]
  rfl

lemma exists_root_of_rowOf? {row : Nat} (hrow : (ofGraph g).rowOf? id = some row) :
    ∃ root, (ofGraph g).nodes.head? = some root := by
  rw [← Option.isSome_iff_exists, List.isSome_head?]
  by_contra hnone
  rw [rowOf?_of_nodes_eq_nil (by simpa using hnone)] at hrow
  cases hrow

/-- The last wave has the greatest distance. -/
lemma isGreatest_distance (hroot : (ofGraph g).nodes.head? = some root) :
    ∃ last, IsGreatest {k | ∃ id, (ofGraph g).IsDistance root.index id k} last
      ∧ (ofGraph g).waves.length = last + 1 := by
  obtain ⟨more, hnodes⟩ := List.head?_eq_some_iff.1 hroot
  have hne : ∀ wave ∈ (ofGraph g).waves, wave ≠ [] := by
    rw [waves, hnodes]
    exact ne_nil_of_mem_wavesFrom (List.cons_ne_nil _ _)
  have hbelow : ∀ k, (∃ id, (ofGraph g).IsDistance root.index id k)
      ↔ k < (ofGraph g).waves.length := by
    intro k
    constructor
    · rintro ⟨id, hid⟩
      obtain ⟨wave, hwave, -⟩ := (mem_waves_iff hroot k).2 hid
      exact (List.getElem?_eq_some_iff.1 hwave).1
    · intro hk
      obtain ⟨id, hid⟩ := List.exists_mem_of_ne_nil _ (hne _ (List.getElem_mem hk))
      exact ⟨id, (mem_waves_iff hroot k).1 ⟨_, List.getElem?_eq_getElem hk, hid⟩⟩
  have hpos : 0 < (ofGraph g).waves.length := (hbelow 0).1 ⟨root.index, isDistance_zero_iff.2 rfl⟩
  refine ⟨(ofGraph g).waves.length - 1, ⟨(hbelow _).2 (by omega), fun k hk => ?_⟩, by omega⟩
  have hlt := (hbelow k).1 hk
  omega

/-- **Rows are distances.**  A graph without nodes has no rows.  Otherwise the first node stands in
row zero, each index that edges lead to stands in the row of its distance from the first node, and
the nodes that none lead to stand one row below the greatest distance; so each node has a row, and
no other index has one. -/
theorem rowOf_eq_distance (g : Graph) :
    ((ofGraph g).nodes = [] → ∀ id, (ofGraph g).rowOf? id = none)
    ∧ ∀ root, (ofGraph g).nodes.head? = some root →
        (ofGraph g).rowOf? root.index = some 0
        ∧ (∀ id, (ofGraph g).Reaches root.index id →
            ∃ k, (ofGraph g).IsDistance root.index id k ∧ (ofGraph g).rowOf? id = some k)
        ∧ (∃ last, IsGreatest {k | ∃ id, (ofGraph g).IsDistance root.index id k} last
            ∧ ∀ n ∈ (ofGraph g).nodes, ¬ (ofGraph g).Reaches root.index n.index →
                (ofGraph g).rowOf? n.index = some (last + 1))
        ∧ ∀ id, (∃ row, (ofGraph g).rowOf? id = some row)
            ↔ (ofGraph g).Reaches root.index id ∨ ∃ n ∈ (ofGraph g).nodes, n.index = id := by
  refine ⟨rowOf?_of_nodes_eq_nil, fun root hroot => ⟨?_, fun id hid => ?_, ?_, fun id => ?_⟩⟩
  · exact rowOf?_of_isDistance hroot (isDistance_zero_iff.2 rfl)
  · obtain ⟨k, hk⟩ := hid.exists_isDistance
    exact ⟨k, hk, rowOf?_of_isDistance hroot hk⟩
  · obtain ⟨last, hlast, hlength⟩ := isGreatest_distance hroot
    exact ⟨last, hlast, fun n hn hnever => hlength ▸ rowOf?_of_not_reaches hroot hn hnever⟩
  · constructor
    · rintro ⟨row, hrow⟩
      by_contra hnowhere
      rw [not_or, not_exists] at hnowhere
      obtain ⟨hnever, hnode⟩ := hnowhere
      rw [rowOf?_eq_none hroot hnever fun n hn heq => hnode n ⟨hn, heq⟩] at hrow
      cases hrow
    · rintro (hreaches | ⟨n, hn, rfl⟩)
      · obtain ⟨k, hk⟩ := hreaches.exists_isDistance
        exact ⟨k, rowOf?_of_isDistance hroot hk⟩
      · exact exists_rowOf?_of_mem hn

/-- Nodes one and two are reached through an index without a node, and a longest path ends in
another one.  There are also a loop, a cycle, a doubled edge and a doubled index, and the node with
index nine is not reached. -/
def tangled : Graph where
  nodes := [
    ⟨0, "", .plain, 0, none, false⟩, ⟨1, "", .plain, 1, none, false⟩,
    ⟨2, "", .plain, 2, none, false⟩, ⟨2, "", .merged, 3, none, false⟩,
    ⟨9, "", .plain, 4, none, false⟩]
  edges := [
    ⟨0, 0, "", -1⟩, ⟨0, 7, "", -1⟩, ⟨7, 1, "", -1⟩, ⟨1, 0, "", -1⟩, ⟨1, 2, "", -1⟩, ⟨1, 2, "", -1⟩,
    ⟨2, 8, "", -1⟩, ⟨9, 0, "", -1⟩]

theorem rowOf_tangled :
    (ofGraph ⟨[], [⟨0, 1, "", -1⟩]⟩).rowOf? 0 = none
    ∧ (ofGraph tangled).rowOf? 0 = some 0
    ∧ (∃ k, (ofGraph tangled).IsDistance 0 2 k ∧ (ofGraph tangled).rowOf? 2 = some k)
    ∧ ∃ last, IsGreatest {k | ∃ id, (ofGraph tangled).IsDistance 0 id k} last
        ∧ (ofGraph tangled).rowOf? 9 = some (last + 1) := by
  have hnodes : (ofGraph tangled).nodes = tangled.nodes := by cbv
  have hroot : (ofGraph tangled).nodes.head? = some ⟨0, "", .plain, 0, none, false⟩ := by
    rw [hnodes]
    rfl
  have hedge : ∀ e ∈ tangled.edges, e ∈ (ofGraph tangled).edges := fun _ he => he
  have hreached : (ofGraph tangled).Reaches 0 2 :=
    ⟨3, .step (e := ⟨1, 2, "", -1⟩) (.step (e := ⟨7, 1, "", -1⟩) (.step (e := ⟨0, 7, "", -1⟩) .refl
      (hedge _ (by decide))) (hedge _ (by decide))) (hedge _ (by decide))⟩
  have hclosed : ∀ e ∈ tangled.edges,
      e.source ∈ [(0 : NodeId), 7, 1, 2, 8] → e.target ∈ [(0 : NodeId), 7, 1, 2, 8] := by decide
  have hnever : ¬ (ofGraph tangled).Reaches 0 9 :=
    fun h => absurd (h.mem_of_closed (by decide) hclosed) (by decide)
  have hnone : (ofGraph ⟨[], [⟨0, 1, "", -1⟩]⟩).nodes = [] := by cbv
  obtain ⟨hstart, hwaves, ⟨last, hlast, hbelow⟩, -⟩ := (rowOf_eq_distance tangled).2 _ hroot
  refine ⟨(rowOf_eq_distance ⟨[], [⟨0, 1, "", -1⟩]⟩).1 hnone 0, hstart, hwaves 2 hreached, last,
    hlast, hbelow ⟨9, "", .plain, 4, none, false⟩ ?_ hnever⟩
  rw [hnodes]
  decide

end Dataset

end Retrace
