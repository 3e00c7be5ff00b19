import Mathlib.Data.List.Permutation
import Retrace.Proofs.Replay.Prefix

/-!
Which merges a step highlights.

A merged node that is reached is highlighted until a node of a clearing kind is reached; nodes of
any other kind, and nodes that are skipped, leave the highlights alone.

* `Dataset.HighlightedBefore`: the rule, for a walk over `k` nodes;
* `Walk.mem_recolor`: the highlights after a node; `Walk.mem_mergeColored_after`: after a walk;
* `Dataset.mem_mergeColored_visualAt`: the highlights of a step.
-/

namespace Retrace

lemma Kind.clearsHighlight_eq_false_iff {k : Kind} :
    k.clearsHighlight = false ↔ k ≠ .plain ∧ k ≠ .toMerge := by
  cases k <;> simp [clearsHighlight]

namespace Dataset

variable {d : Dataset} {k : Nat} {i : NodeId}

/-- One of the first `k` nodes is reached, merged and has the index, and no node reached behind it
clears the highlights. -/
def HighlightedBefore (d : Dataset) (i : NodeId) : Nat → Prop :=
  Since (fun p => ∃ n, d.ReachedAt p n ∧ n.index = i ∧ n.kind = .merged)
    fun q => ∀ m, d.ReachedAt q m → m.kind.clearsHighlight = false

/-- A reached node is highlighted if it is merged, and otherwise keeps the highlights before it
unless it clears them. -/
lemma highlightedBefore_succ {n : Node} (hn : d.ReachedAt k n) :
    d.HighlightedBefore i (k + 1)
      ↔ (n.index = i ∧ n.kind = .merged)
        ∨ (d.HighlightedBefore i k ∧ n.kind.clearsHighlight = false) := by
  rw [HighlightedBefore, since_succ, hn.exists_iff, hn.forall_iff]

/-- Where no node is reached nothing changes. -/
lemma highlightedBefore_succ_of_not (hk : ∀ n, ¬ d.ReachedAt k n) :
    d.HighlightedBefore i (k + 1) ↔ d.HighlightedBefore i k := by
  simp [HighlightedBefore, since_succ, hk]

end Dataset

/-! ### The walk -/

namespace Walk

/-- A merged node is highlighted; a node that does not clear the highlights keeps the others. -/
lemma mem_recolor {n : Node} {colored : IdSet} {i : NodeId} :
    i ∈ recolor n colored
      ↔ (n.index = i ∧ n.kind = .merged) ∨ (i ∈ colored ∧ n.kind.clearsHighlight = false) := by
  cases hkind : n.kind <;> simp [recolor, hkind, Kind.clearsHighlight, eq_comm]

/-- **What a walk highlights** after `k` nodes. -/
lemma mem_mergeColored_after (d : Dataset) (step k : Nat) (i : NodeId) :
    i ∈ (after d step k).visual.mergeColored ↔ d.HighlightedBefore i k := by
  refine after_induction (P := fun k w => i ∈ w.visual.mergeColored ↔ d.HighlightedBefore i k)
    ?_ ?_ ?_ ?_ k
  · simp [start, Visual.blank, Dataset.HighlightedBefore, not_since_zero]
  · intro k w n hn ih
    rw [visit_of_nonneg hn.2, Dataset.highlightedBefore_succ hn, ← ih]
    exact mem_recolor
  · intro k w n hn hneg ih
    rw [visit_of_neg hneg, Dataset.highlightedBefore_succ_of_not, ← ih]
    · rfl
    · exact fun _ => Dataset.not_reachedAt_of_neg hn hneg
  · intro k w hk ih
    rw [Dataset.highlightedBefore_succ_of_not, ih]
    exact fun _ => Dataset.not_reachedAt_of_none hk

end Walk

/-! ### Steps -/

namespace Dataset

/-- **The merge highlights in closed form**: a step that is not past the last one highlights an
index iff a merged node with it has been reached and no plain node and none that waits for its merge
has been reached since.  Past the last step the highlights are those of the last one without the
index of the last node, and without nodes nothing is highlighted. -/
theorem mem_mergeColored_visualAt (d : Dataset) :
    (∀ last, d.maxStep? = some last →
      (∀ s ≤ last, ∀ i, i ∈ (d.visualAt s).mergeColored ↔
        ∃ p ≤ s, (∃ n, d.ReachedAt p n ∧ n.index = i ∧ n.kind = .merged)
          ∧ ∀ q, p < q → q ≤ s → ∀ m, d.ReachedAt q m → m.kind ≠ .plain ∧ m.kind ≠ .toMerge)
      ∧ ∃ n, d.nodes[last]? = some n ∧ ∀ s > last,
        (d.visualAt s).mergeColored = (d.visualAt last).mergeColored.erase n.index)
    ∧ (d.maxStep? = none → ∀ s, (d.visualAt s).mergeColored = ∅) := by
  refine ⟨fun last hlast => ⟨fun s hs i => ?_, ?_⟩, fun hnone s => ?_⟩
  · rw [visualAt_of_le hlast hs, Walk.mem_mergeColored_after, HighlightedBefore]
    simp only [Since, Nat.lt_succ_iff, Kind.clearsHighlight_eq_false_iff]
  · obtain ⟨n, hn⟩ := exists_node_of_maxStep? hlast
    refine ⟨n, hn, fun s hs => ?_⟩
    rw [visualAt_of_lt hlast hn hs]
  · rw [visualAt_of_none hnone]
    rfl

/-- A merge is still highlighted at the last node, which is of another kind and has the index of the
merge; the plain node between the two is skipped. -/
def mergedAgain : Graph where
  nodes := [
    ⟨5, "merge", .merged, 0, none, false⟩,
    ⟨6, "skipped", .plain, -1, none, false⟩,
    ⟨5, "covered", .other "covered", 1, none, false⟩]
  edges := []

theorem mem_mergeColored_mergedAgain :
    (ofGraph mergedAgain).maxStep? = some 2
      ∧ 5 ∈ ((ofGraph mergedAgain).visualAt 2).mergeColored
      ∧ (∃ p ≤ 2, (∃ n, (ofGraph mergedAgain).ReachedAt p n ∧ n.index = 5 ∧ n.kind = .merged)
        ∧ ∀ q, p < q → q ≤ 2 → ∀ m, (ofGraph mergedAgain).ReachedAt q m →
          m.kind ≠ .plain ∧ m.kind ≠ .toMerge)
      ∧ 3 > 2 ∧ ((ofGraph mergedAgain).visualAt 3).mergeColored = ∅ := by
  have hlast : (ofGraph mergedAgain).maxStep? = some 2 := by cbv
  have hnode : (ofGraph mergedAgain).nodes[2]?
      = some ⟨5, "covered", .other "covered", 1, none, false⟩ := by cbv
  have hcolored : ((ofGraph mergedAgain).visualAt 2).mergeColored = .ofList [5] := by cbv
  have hmem : 5 ∈ ((ofGraph mergedAgain).visualAt 2).mergeColored := by
    rw [hcolored]
    decide
  obtain ⟨hwithin, n, hn, hpast⟩ := (mem_mergeColored_visualAt (ofGraph mergedAgain)).1 2 hlast
  obtain rfl := Option.some.inj (hnode.symm.trans hn)
  refine ⟨hlast, hmem, (hwithin 2 (Nat.le_refl 2) 5).1 hmem, by decide, ?_⟩
  rw [hpast 3 (by decide), hcolored]
  decide

end Dataset

end Retrace
