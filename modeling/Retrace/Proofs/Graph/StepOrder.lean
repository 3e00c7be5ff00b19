import Mathlib.Data.List.Nodup
import Retrace.Dataset

/-!
The order in which the nodes are reached.

A graph lists its nodes in any order, with starts that may repeat.  The step order is the one order
of these nodes that goes by their starts and otherwise changes nothing.

* `Dataset.IsStepOrder`: what a step order is; `Dataset.IsStepOrder.unique`: there is one only;
* `Dataset.isStepOrder_stepOrder`: sorting the nodes finds it;
* `Dataset.stepOrder_eq_of_perm`: where all starts differ, the order of the data does not matter;
* `Dataset.lastStart_stepOrder`: the greatest start is that of the last node.
-/

namespace Retrace

namespace Dataset

/-- The lists hold the same nodes of each start, in the same order. -/
def AgreeByStart (ordered other : List Node) : Prop :=
  ∀ start, ordered.filter (·.intervalStart = start) = other.filter (·.intervalStart = start)

/-- The nodes of the data, ascending by their starts; nodes with one start keep the order that they
have in the data. -/
structure IsStepOrder (data ordered : List Node) : Prop where
  perm : ordered.Perm data
  ascending : ordered.Pairwise fun m n => m.intervalStart ≤ n.intervalStart
  stable : AgreeByStart ordered data

variable {data ordered other : List Node}

/-! ### Sorting -/

lemma le_trans_of_start (l m n : Node) (hlm : decide (l.intervalStart ≤ m.intervalStart) = true)
    (hmn : decide (m.intervalStart ≤ n.intervalStart) = true) :
    decide (l.intervalStart ≤ n.intervalStart) = true :=
  decide_eq_true (Int64.le_trans (of_decide_eq_true hlm) (of_decide_eq_true hmn))

lemma le_total_of_start (m n : Node) :
    (decide (m.intervalStart ≤ n.intervalStart) || decide (n.intervalStart ≤ m.intervalStart))
      = true := by
  rw [Bool.or_eq_true, decide_eq_true_iff, decide_eq_true_iff]
  exact Int64.le_total _ _

lemma pairwise_stepOrder (data : List Node) :
    (stepOrder data).Pairwise fun m n => m.intervalStart ≤ n.intervalStart :=
  (List.pairwise_mergeSort le_trans_of_start le_total_of_start data).imp of_decide_eq_true

lemma mem_nodes_ofGraph {g : Graph} {n : Node} : n ∈ (ofGraph g).nodes ↔ n ∈ g.nodes :=
  List.mem_mergeSort

/-- Sorting finds a step order. -/
lemma isStepOrder_stepOrder (data : List Node) : IsStepOrder data (stepOrder data) where
  perm := List.mergeSort_perm _ _
  ascending := pairwise_stepOrder data
  stable start := by
    -- the nodes with one start stand in order already, and so they are found again in that order
    have hsorted : (data.filter (·.intervalStart = start)).Pairwise
        fun m n => decide (m.intervalStart ≤ n.intervalStart) = true := by
      refine List.pairwise_of_forall_mem_list fun m hm n hn => decide_eq_true ?_
      rw [of_decide_eq_true (List.mem_filter.1 hm).2, of_decide_eq_true (List.mem_filter.1 hn).2]
      exact Int64.le_refl _
    have hsub : (data.filter (·.intervalStart = start)).Sublist
        ((stepOrder data).filter (·.intervalStart = start)) := by
      have h := (List.sublist_mergeSort le_trans_of_start le_total_of_start hsorted
        List.filter_sublist).filter (·.intervalStart = start)
      rwa [List.filter_filter, funext fun n => Bool.and_self _] at h
    exact (hsub.eq_of_length ((List.mergeSort_perm _ _).filter _).length_eq.symm).symm

/-! ### There is one order only -/

lemma AgreeByStart.mem_iff (h : AgreeByStart ordered other) (n : Node) :
    n ∈ ordered ↔ n ∈ other := by
  have hmem (l : List Node) : n ∈ l.filter (·.intervalStart = n.intervalStart) ↔ n ∈ l := by
    simp [List.mem_filter]
  rw [← hmem ordered, h, hmem other]

lemma AgreeByStart.of_cons {n : Node} (h : AgreeByStart (n :: ordered) (n :: other)) :
    AgreeByStart ordered other := by
  intro start
  have hstart := h start
  rw [List.filter_cons, List.filter_cons] at hstart
  split at hstart
  · exact (List.cons.inj hstart).2
  · exact hstart

lemma AgreeByStart.head_eq {m n : Node} (h : AgreeByStart (n :: ordered) (m :: other))
    (hstart : n.intervalStart = m.intervalStart) : n = m := by
  have hhead := h m.intervalStart
  rw [List.filter_cons, if_pos (decide_eq_true hstart), List.filter_cons,
    if_pos (decide_eq_true rfl)] at hhead
  exact (List.cons.inj hhead).1

lemma start_le_of_mem {m n : Node}
    (h : (n :: ordered).Pairwise fun m n => m.intervalStart ≤ n.intervalStart)
    (hm : m ∈ n :: ordered) : n.intervalStart ≤ m.intervalStart := by
  rcases List.mem_cons.1 hm with rfl | hm
  · exact Int64.le_refl _
  · exact List.rel_of_pairwise_cons h hm

/-- Ascending nodes are known by those of each start. -/
lemma AgreeByStart.eq (h : AgreeByStart ordered other)
    (hordered : ordered.Pairwise fun m n => m.intervalStart ≤ n.intervalStart)
    (hother : other.Pairwise fun m n => m.intervalStart ≤ n.intervalStart) : ordered = other := by
  induction ordered generalizing other with
  | nil => exact (List.eq_nil_iff_forall_not_mem.2 fun n hn => nomatch (h.mem_iff n).2 hn).symm
  | cons n ordered ih =>
      cases other with
      | nil => exact nomatch (h.mem_iff n).1 List.mem_cons_self
      | cons m other =>
          -- each of the two front nodes stands in the other list, so they have one start
          have hnm := start_le_of_mem hordered ((h.mem_iff m).2 List.mem_cons_self)
          have hmn := start_le_of_mem hother ((h.mem_iff n).1 List.mem_cons_self)
          obtain rfl := h.head_eq (Int64.le_antisymm hnm hmn)
          rw [ih h.of_cons hordered.of_cons hother.of_cons]

/-- There is one step order only. -/
lemma IsStepOrder.unique (h : IsStepOrder data ordered) (h' : IsStepOrder data other) :
    ordered = other :=
  AgreeByStart.eq (fun start => (h.stable start).trans (h'.stable start).symm) h.ascending
    h'.ascending

/-- Where all starts differ, the order of the data does not matter. -/
lemma stepOrder_eq_of_perm (h : other.Perm data)
    (hstarts : (data.map (·.intervalStart)).Nodup) : stepOrder other = stepOrder data := by
  have hperm : (stepOrder other).Perm (stepOrder data) :=
    (List.mergeSort_perm _ _).trans (h.trans (List.mergeSort_perm _ _).symm)
  refine hperm.eq_of_pairwise (fun m n hm hn hmn hnm => ?_) (pairwise_stepOrder other)
    (pairwise_stepOrder data)
  exact List.inj_on_of_nodup_map hstarts (h.mem_iff.1 (List.mem_mergeSort.1 hm))
    (List.mem_mergeSort.1 hn) (Int64.le_antisymm hmn hnm)

/-! ### The last start -/

/-- Of ascending numbers the last one is the greatest. -/
lemma max?_eq_getLast? {starts : List Int64} (h : starts.Pairwise (· ≤ ·)) :
    starts.max? = starts.getLast? := by
  cases starts with
  | nil => rfl
  | cons start starts =>
      rw [List.max?_cons']
      induction starts generalizing start with
      | nil => rfl
      | cons next starts ih =>
          have hle : start ≤ next := List.rel_of_pairwise_cons h List.mem_cons_self
          have hmax : max start next = next := if_pos hle
          rw [List.foldl_cons, hmax, List.getLast?_cons_cons]
          exact ih next h.of_cons

/-- The greatest start is that of the last node in step order. -/
lemma lastStart_stepOrder (data : List Node) :
    lastStart (stepOrder data) = ((stepOrder data).getLast?.map (·.intervalStart)).getD 0 := by
  rw [lastStart, max?_eq_getLast? (List.pairwise_map.2 (pairwise_stepOrder data)),
    List.getLast?_map]

end Dataset

end Retrace
