import Mathlib.Data.List.Permutation
import Retrace.Proofs.Replay.Prefix

/-!
How far a step has come.

A visit adds the index of its node to the shown ones if the node is reached, and to the stopped ones
if the analysis stopped there, whether the node is reached or not.  Nothing ever takes an index out.

* `Dataset.indicesBefore`: the indices of those of the first `k` nodes that pass a test, with one
  equation for one node more (`indicesBefore_succ`);
* `Walk.shownNodes_after`, `Walk.stopped_after`: a walk over `k` nodes shows and stops such indices;
* `Dataset.ReachedBy`, `Dataset.mem_shownNodes_visualAt`: a step shows the indices that have been
  reached by it;
* `Dataset.progress_visualAt`: what is shown and stopped at a step, which later steps only add to.
-/

namespace Retrace

namespace Dataset

variable {d : Dataset} {test : Node → Bool} {k : Nat} {i : NodeId}

/-- The indices of those of the first `k` nodes that pass the test. -/
def indicesBefore (d : Dataset) (test : Node → Bool) (k : Nat) : IdSet :=
  .ofList (((d.nodes.take k).filter test).map (·.index))

/-- Whether a node is reached by a walk that comes to it. -/
def isReached (n : Node) : Bool := 0 ≤ n.intervalStart

lemma mem_indicesBefore :
    i ∈ d.indicesBefore test k ↔ ∃ p < k, ∃ n, d.nodes[p]? = some n ∧ test n ∧ n.index = i := by
  simp only [indicesBefore, IdSet.mem_ofList, List.mem_map, List.mem_filter]
  constructor
  · rintro ⟨n, ⟨hn, htest⟩, hi⟩
    obtain ⟨p, hp, rfl⟩ := List.mem_take_iff_getElem.1 hn
    exact ⟨p, by omega, d.nodes[p], List.getElem?_eq_getElem (by omega), htest, hi⟩
  · rintro ⟨p, hp, n, hn, htest, hi⟩
    have hmem : n ∈ d.nodes.take k :=
      List.mem_of_getElem? ((List.getElem?_take_of_lt hp).trans hn)
    exact ⟨n, ⟨hmem, htest⟩, hi⟩

@[simp] lemma indicesBefore_zero : d.indicesBefore test 0 = ∅ := by
  simp [indicesBefore, IdSet.ofList]

/-- One node more adds its index if it passes the test. -/
lemma indicesBefore_succ {n : Node} (hn : d.nodes[k]? = some n) :
    d.indicesBefore test (k + 1)
      = if test n then (d.indicesBefore test k).insert n.index else d.indicesBefore test k := by
  refine IdSet.ext fun i => ?_
  rw [indicesBefore, List.take_add_one, hn, Option.toList_some, List.filter_append, List.map_append]
  by_cases htest : test n
  · simp [indicesBefore, htest, or_comm]
  · simp [indicesBefore, htest]

lemma indicesBefore_succ_of_none (hk : d.nodes[k]? = none) :
    d.indicesBefore test (k + 1) = d.indicesBefore test k := by
  simp [indicesBefore, List.take_add_one, hk]

/-- More nodes have more indices. -/
lemma mem_indicesBefore_of_le {l : Nat} (hkl : k ≤ l) (hi : i ∈ d.indicesBefore test k) :
    i ∈ d.indicesBefore test l := by
  obtain ⟨p, hp, hn⟩ := mem_indicesBefore.1 hi
  exact mem_indicesBefore.2 ⟨p, Nat.lt_of_lt_of_le hp hkl, hn⟩

/-- Past the last step there are no more nodes. -/
lemma indicesBefore_min {last : Nat} (hlast : d.maxStep? = some last) (s : Nat) :
    d.indicesBefore test (min s last + 1) = d.indicesBefore test (s + 1) := by
  have hlen := maxStep?_eq_some_iff.1 hlast
  rcases Nat.le_total s last with hs | hs
  · rw [Nat.min_eq_left hs]
  · have htake : d.nodes.take (last + 1) = d.nodes.take (s + 1) := by
      rw [List.take_of_length_le (by omega), List.take_of_length_le (by omega)]
    rw [Nat.min_eq_right hs, indicesBefore, indicesBefore, htake]

end Dataset

/-! ### The walk -/

namespace Walk

variable {d : Dataset}

/-- After `k` nodes those are shown that have been reached. -/
lemma shownNodes_after (d : Dataset) (step k : Nat) :
    (after d step k).visual.shownNodes = d.indicesBefore Dataset.isReached k := by
  refine after_induction (P := fun k w => w.visual.shownNodes = d.indicesBefore _ k) ?_ ?_ ?_ ?_ k
  · rw [Dataset.indicesBefore_zero]
    rfl
  · intro k w n hn ih
    have hreached : Dataset.isReached n := decide_eq_true hn.2
    rw [visit_of_nonneg hn.2, Dataset.indicesBefore_succ hn.1, if_pos hreached, ← ih]
    rfl
  · intro k w n hn hneg ih
    have hskipped : ¬ Dataset.isReached n := by simpa [Dataset.isReached] using hneg
    rw [visit_of_neg hneg, Dataset.indicesBefore_succ hn, if_neg hskipped, ← ih]
    rfl
  · intro k w hk ih
    rw [Dataset.indicesBefore_succ_of_none hk, ih]

/-- After `k` nodes those are stopped at which the analysis stopped. -/
lemma stopped_after (d : Dataset) (step k : Nat) :
    (after d step k).visual.stopped = d.indicesBefore (·.analysisStop) k := by
  have henter : ∀ (k : Nat) (w : Walk) (n : Node), d.nodes[k]? = some n →
      w.visual.stopped = d.indicesBefore (·.analysisStop) k →
      (w.enter n).visual.stopped = d.indicesBefore (·.analysisStop) (k + 1) := by
    intro k w n hn ih
    rw [Dataset.indicesBefore_succ hn, ← ih]
    rfl
  refine after_induction (P := fun k w => w.visual.stopped = d.indicesBefore _ k) ?_ ?_ ?_ ?_ k
  · rw [Dataset.indicesBefore_zero]
    rfl
  · intro k w n hn ih
    -- being reached adds nothing to what entering the node has added
    rw [visit_of_nonneg hn.2]
    exact henter k w n hn.1 ih
  · intro k w n hn hneg ih
    rw [visit_of_neg hneg]
    exact henter k w n hn ih
  · intro k w hk ih
    rw [Dataset.indicesBefore_succ_of_none hk, ih]

end Walk

/-! ### Steps -/

namespace Dataset

variable {d : Dataset}

lemma shownNodes_visualAt (d : Dataset) (s : Nat) :
    (d.visualAt s).shownNodes = d.indicesBefore isReached (s + 1) := by
  obtain ⟨w, colored, rfl, -, h⟩ := exists_after_visualAt d s
  rw [h]
  exact Walk.shownNodes_after d _ (s + 1)

lemma stopped_visualAt (d : Dataset) (s : Nat) :
    (d.visualAt s).stopped = d.indicesBefore (·.analysisStop) (s + 1) := by
  obtain ⟨w, colored, rfl, -, h⟩ := exists_after_visualAt d s
  rw [h]
  exact Walk.stopped_after d _ (s + 1)

/-- A node with the index is reached at the step or before. -/
def ReachedBy (d : Dataset) (s : Nat) (i : NodeId) : Prop :=
  ∃ p ≤ s, ∃ n, d.ReachedAt p n ∧ n.index = i

/-- A step shows the nodes that have been reached by it. -/
lemma mem_shownNodes_visualAt (d : Dataset) (s : Nat) (i : NodeId) :
    i ∈ (d.visualAt s).shownNodes ↔ d.ReachedBy s i := by
  simp only [shownNodes_visualAt, mem_indicesBefore, isReached, decide_eq_true_eq, Nat.lt_succ_iff,
    ReachedBy, ReachedAt, and_assoc]

/-- **Progress**: a later step shows and stops whatever an earlier one does; and a step shows
exactly the indices of the reached ones among the nodes that it has come to, and stops exactly the
indices of those among them at which the analysis stopped. -/
theorem progress_visualAt (d : Dataset) :
    (∀ s t, s ≤ t →
      (∀ i ∈ (d.visualAt s).shownNodes, i ∈ (d.visualAt t).shownNodes)
        ∧ ∀ i ∈ (d.visualAt s).stopped, i ∈ (d.visualAt t).stopped)
    ∧ ∀ last, d.maxStep? = some last → ∀ s,
      (d.visualAt s).shownNodes
          = .ofList (((d.nodes.take (min s last + 1)).filter (0 ≤ ·.intervalStart)).map (·.index))
        ∧ (d.visualAt s).stopped
          = .ofList (((d.nodes.take (min s last + 1)).filter (·.analysisStop)).map (·.index)) := by
  refine ⟨fun s t hst => ?_, fun last hlast s => ?_⟩
  · have hle : s + 1 ≤ t + 1 := Nat.succ_le_succ hst
    simp only [shownNodes_visualAt, stopped_visualAt]
    exact ⟨fun i => mem_indicesBefore_of_le hle, fun i => mem_indicesBefore_of_le hle⟩
  · exact ⟨(shownNodes_visualAt d s).trans (indicesBefore_min hlast s).symm,
      (stopped_visualAt d s).trans (indicesBefore_min hlast s).symm⟩

/-- The analysis stopped at a node that is skipped, and two nodes share an index. -/
def stoppedEarly : Graph where
  nodes := [
    ⟨4, "start", .plain, 0, none, false⟩,
    ⟨9, "skipped", .plain, -3, none, true⟩,
    ⟨4, "again", .merged, 2, none, true⟩]
  edges := []

theorem progress_stoppedEarly :
    (ofGraph stoppedEarly).maxStep? = some 2
      ∧ ((ofGraph stoppedEarly).visualAt 0).shownNodes = ∅
      ∧ ((ofGraph stoppedEarly).visualAt 0).stopped = .ofList [9]
      ∧ ((ofGraph stoppedEarly).visualAt 7).shownNodes = .ofList [4]
      ∧ 0 ≤ 7 ∧ 9 ∈ ((ofGraph stoppedEarly).visualAt 7).stopped := by
  have hlast : (ofGraph stoppedEarly).maxStep? = some 2 := by cbv
  obtain ⟨hgrows, hexact⟩ := progress_visualAt (ofGraph stoppedEarly)
  have hstopped : ((ofGraph stoppedEarly).visualAt 0).stopped = .ofList [9] :=
    (hexact 2 hlast 0).2.trans (by cbv)
  refine ⟨hlast, (hexact 2 hlast 0).1.trans (by cbv), hstopped,
    (hexact 2 hlast 7).1.trans (by cbv), Nat.zero_le 7, ?_⟩
  refine (hgrows 0 7 (Nat.zero_le 7)).2 9 ?_
  rw [hstopped]
  decide

end Dataset

end Retrace
