import Mathlib.Tactic.Lemma
import Retrace.Replay.Walk

/-!
The walk of the replay, read by the number of nodes it has visited.

`Walk.upTo` visits the nodes up to a step in one go.  An invariant speaks of the walk after its
first `k` nodes, whatever step it is heading for:

* `Walk.after`: the walk after `k` nodes, with one equation for a node that is there (`after_succ`)
  and one for the places past the end (`after_succ_of_none`);
* `Dataset.ReachedAt`: a place whose node is reached, its interval not starting below zero;
* `Since`: what has come at a place and has been kept up at every later one, with the equation
  `since_succ` for one place more;
* `Walk.after_induction`: what holds at the start and is kept by every visit holds of every walk;
* `visualAt_of_le`, `visualAt_of_lt`, `visualAt_of_none`, `exists_after_visualAt`: what a step
  shows, in terms of the walk.
-/

namespace Retrace

/-! ### Places -/

namespace Dataset

variable {d : Dataset}

/-- The node at place `r` is reached. -/
def ReachedAt (d : Dataset) (r : Nat) (n : Node) : Prop :=
  d.nodes[r]? = some n ∧ 0 ≤ n.intervalStart

instance (d : Dataset) (r : Nat) (n : Node) : Decidable (d.ReachedAt r n) :=
  inferInstanceAs (Decidable (_ ∧ _))

lemma ReachedAt.eq {r : Nat} {m n : Node} (hm : d.ReachedAt r m) (hn : d.ReachedAt r n) : m = n :=
  Option.some.inj (hm.1.symm.trans hn.1)

/-- A node that is skipped is not reached, and neither is any other at its place. -/
lemma not_reachedAt_of_neg {r : Nat} {m n : Node} (hn : d.nodes[r]? = some n)
    (hneg : n.intervalStart < 0) : ¬ d.ReachedAt r m := by
  rintro ⟨hm, h0⟩
  obtain rfl : n = m := Option.some.inj (hn.symm.trans hm)
  exact Int64.not_le.2 hneg h0

/-- Nothing is reached past the end. -/
lemma not_reachedAt_of_none {r : Nat} {m : Node} (hr : d.nodes[r]? = none) :
    ¬ d.ReachedAt r m := by
  rintro ⟨hm, -⟩
  simp [hr] at hm

/-- A place has one node, so what some reached node there satisfies is what this one satisfies. -/
lemma ReachedAt.exists_iff {r : Nat} {n : Node} (hn : d.ReachedAt r n) {P : Node → Prop} :
    (∃ m, d.ReachedAt r m ∧ P m) ↔ P n := by
  constructor
  · rintro ⟨m, hm, h⟩
    rwa [hn.eq hm]
  · intro h
    exact ⟨n, hn, h⟩

lemma ReachedAt.forall_iff {r : Nat} {n : Node} (hn : d.ReachedAt r n) {P : Node → Prop} :
    (∀ m, d.ReachedAt r m → P m) ↔ P n := by
  constructor
  · intro h
    exact h n hn
  · intro h m hm
    rwa [← hn.eq hm]

lemma maxStep?_eq_some_iff {last : Nat} : d.maxStep? = some last ↔ d.nodes.length = last + 1 := by
  rw [maxStep?]
  cases hd : d.nodes with
  | nil => simp
  | cons n ns => simp

lemma maxStep?_eq_none_iff : d.maxStep? = none ↔ d.nodes = [] := by
  rw [maxStep?]
  split <;> simp_all

end Dataset

/-! ### What has been kept up -/

/-- The event has come at one of the first `k` places, and the condition holds at each of these
places behind it. -/
def Since (event kept : Nat → Prop) (k : Nat) : Prop :=
  ∃ p < k, event p ∧ ∀ q, p < q → q < k → kept q

lemma not_since_zero {event kept : Nat → Prop} : ¬ Since event kept 0 := by
  rintro ⟨p, hp, -⟩
  exact Nat.not_lt_zero p hp

/-- At one place more the event comes, or it has come before and the condition still holds. -/
lemma since_succ {event kept : Nat → Prop} {k : Nat} :
    Since event kept (k + 1) ↔ event k ∨ (Since event kept k ∧ kept k) := by
  constructor
  · rintro ⟨p, hp, hevent, hkept⟩
    rcases Nat.lt_succ_iff_lt_or_eq.1 hp with hlt | rfl
    · have hbefore : ∀ q, p < q → q < k → kept q :=
        fun q hpq hqk => hkept q hpq (Nat.lt_succ_of_lt hqk)
      exact .inr ⟨⟨p, hlt, hevent, hbefore⟩, hkept k hlt (Nat.lt_succ_self k)⟩
    · exact .inl hevent
  · rintro (hevent | ⟨⟨p, hp, hevent, hkept⟩, hk⟩)
    · exact ⟨k, Nat.lt_succ_self k, hevent, fun q hkq hqk => by omega⟩
    · refine ⟨p, Nat.lt_succ_of_lt hp, hevent, fun q hpq hqk => ?_⟩
      rcases Nat.lt_succ_iff_lt_or_eq.1 hqk with hlt | rfl
      · exact hkept q hpq hlt
      · exact hk

/-! ### The walk after some nodes -/

namespace Walk

variable {d : Dataset} {step : Nat}

/-- The walk towards a step, after its first `k` nodes. -/
def after (d : Dataset) (step k : Nat) : Walk := (d.nodes.take k).foldl (visit d) (start d step)

@[simp] lemma after_zero : after d step 0 = start d step := by simp [after]

lemma after_succ {k : Nat} {n : Node} (hn : d.nodes[k]? = some n) :
    after d step (k + 1) = visit d (after d step k) n := by
  simp [after, List.take_add_one, hn]

lemma after_succ_of_none {k : Nat} (hk : d.nodes[k]? = none) :
    after d step (k + 1) = after d step k := by
  simp [after, List.take_add_one, hk]

/-- Past the end the walk stands still. -/
lemma after_of_length_le {k : Nat} (hk : d.nodes.length ≤ k) :
    after d step k = after d step d.nodes.length := by
  rw [after, after, List.take_of_length_le hk, List.take_length]

lemma upTo_eq_after : upTo d step = after d step (step + 1) := rfl

/-- **What a walk keeps**: a property of the start that a reached node, a skipped node and a place
past the end all pass on holds after any number of nodes. -/
lemma after_induction {P : Nat → Walk → Prop} (start : P 0 (start d step))
    (reached : ∀ k w n, d.ReachedAt k n → P k w → P (k + 1) (visit d w n))
    (skipped : ∀ k w n, d.nodes[k]? = some n → n.intervalStart < 0 → P k w →
      P (k + 1) (visit d w n))
    (past : ∀ k w, d.nodes[k]? = none → P k w → P (k + 1) w) :
    ∀ k, P k (after d step k) := by
  intro k
  induction k with
  | zero => rw [after_zero]; exact start
  | succ k ih =>
      cases hk : d.nodes[k]? with
      | none => rw [after_succ_of_none hk]; exact past k _ hk ih
      | some n =>
          rw [after_succ hk]
          by_cases hneg : n.intervalStart < 0
          · exact skipped k _ n hk hneg ih
          · exact reached k _ n ⟨hk, Int64.not_lt.1 hneg⟩ ih

/-! ### The visit of a node -/

/-- The walk at a node, before anything is made of its edges. -/
def enter (w : Walk) (n : Node) : Walk :=
  { w with visual := { w.visual with
      stopped := if n.analysisStop then w.visual.stopped.insert n.index else w.visual.stopped
      markedLine := none } }

lemma visit_of_neg {w : Walk} {n : Node} (h : n.intervalStart < 0) : visit d w n = w.enter n := by
  simp only [visit, if_pos h, enter]

lemma visit_of_nonneg {w : Walk} {n : Node} (h : 0 ≤ n.intervalStart) :
    visit d w n = reach d (w.enter n) n := by
  simp only [visit, if_neg (Int64.not_lt.2 h), enter]

end Walk

/-! ### What a step shows -/

namespace Dataset

variable {d : Dataset} {last step : Nat}

lemma visualAt_of_le (hlast : d.maxStep? = some last) (h : step ≤ last) :
    d.visualAt step = (Walk.after d step (step + 1)).visual := by
  simp only [visualAt, hlast, if_pos h, Walk.upTo_eq_after]

/-- Past the last step the last one is shown, but for the highlight of the last node. -/
lemma visualAt_of_lt {n : Node} (hlast : d.maxStep? = some last) (hn : d.nodes[last]? = some n)
    (h : last < step) :
    d.visualAt step = { d.visualAt last with
      mergeColored := (d.visualAt last).mergeColored.erase n.index } := by
  simp only [visualAt, hlast, if_neg (Nat.not_le.2 h), nodeAt?, hn, Nat.le_refl, if_true]

lemma visualAt_of_none (hlast : d.maxStep? = none) : d.visualAt step = .blank d.edges.length := by
  simp only [visualAt, hlast]

/-- There is a node at the last step. -/
lemma exists_node_of_maxStep? (hlast : d.maxStep? = some last) : ∃ n, d.nodes[last]? = some n := by
  have hlen := maxStep?_eq_some_iff.1 hlast
  exact ⟨d.nodes[last], List.getElem?_eq_getElem (by omega)⟩

/-- Whatever the step, it shows what a walk over one node more shows, perhaps with fewer merge
highlights.  The walk heads for the step, or for the last one if the step lies past it. -/
lemma exists_after_visualAt (d : Dataset) (step : Nat) :
    ∃ (w : Walk) (colored : IdSet), w = Walk.after d (min step (d.maxStep?.getD 0)) (step + 1)
      ∧ (∀ i ∈ colored, i ∈ w.visual.mergeColored)
      ∧ d.visualAt step = { w.visual with mergeColored := colored } := by
  cases hlast : d.maxStep? with
  | none =>
      have hafter : Walk.after d 0 (step + 1) = Walk.start d 0 := by
        rw [Walk.after, maxStep?_eq_none_iff.1 hlast, List.take_nil, List.foldl_nil]
      refine ⟨Walk.start d 0, ∅, ?_, fun i hi => absurd hi (IdSet.not_mem_empty i), ?_⟩
      · rw [Option.getD_none, Nat.min_zero, hafter]
      · rw [visualAt_of_none hlast]
        rfl
  | some last =>
      rw [Option.getD_some]
      by_cases h : step ≤ last
      · rw [Nat.min_eq_left h]
        exact ⟨_, _, rfl, fun _ hi => hi, visualAt_of_le hlast h⟩
      · have hlen := maxStep?_eq_some_iff.1 hlast
        obtain ⟨n, hn⟩ := exists_node_of_maxStep? hlast
        -- the walk to the last node, and no further
        have hafter : Walk.after d last (step + 1) = Walk.after d last (last + 1) := by
          rw [Walk.after_of_length_le (show d.nodes.length ≤ step + 1 by omega), hlen]
        rw [Nat.min_eq_right (Nat.le_of_not_le h), hafter]
        refine ⟨_, (Walk.after d last (last + 1)).visual.mergeColored.erase n.index, rfl,
          fun i hi => (IdSet.mem_erase.1 hi).1, ?_⟩
        rw [visualAt_of_lt hlast hn (Nat.not_le.1 h), visualAt_of_le hlast (Nat.le_refl last)]

/-- Whatever the step, its edges are those of a walk over one node more. -/
lemma edges_visualAt (d : Dataset) (step : Nat) :
    ∃ towards, (d.visualAt step).edges = (Walk.after d towards (step + 1)).visual.edges := by
  obtain ⟨w, colored, rfl, -, h⟩ := exists_after_visualAt d step
  exact ⟨_, by rw [h]⟩

end Dataset

end Retrace
