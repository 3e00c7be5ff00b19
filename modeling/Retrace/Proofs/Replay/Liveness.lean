import Mathlib.Data.List.Permutation
import Retrace.Proofs.Graph.Incidence
import Retrace.Proofs.Replay.Prefix

/-!
Which ends of an edge are alive at a step.

A node that is reached wakes the ends with its index, stamps its edges with its stop, and retracts
every edge stamped with its index.  An end that has been retracted can be woken again by a later
node with the same index, and a stamp works at every later node.  Read without the walk:

* `ExpiresAt`: an edge expires at a place if the node there is reached and its index is the stop of
  an end of the edge that has been reached by then;
* `Woken`: an end is alive after `k` nodes if one of them woke it and the edge has not expired
  since; `woken_succ` is the equation for one more node;
* `Tracks`: the invariant of the walk, for one edge: its stamps are the stops of the ends that have
  been reached, and its ends are alive as `Woken` says;
* `liveness_visualAt`: the liveness of every edge at every step.
-/

namespace Retrace

/-! ### One edge under the changes of a visit -/

namespace Walk

/-- A change that may as well be made twice is made to exactly the edges that are listed. -/
lemma getElem?_changeEdges (change : Liveness → Liveness)
    (htwice : ∀ l, change (change l) = change l) (id : EdgeId) (ids : List EdgeId) :
    ∀ edges : List Liveness,
      (changeEdges change ids edges)[id]?
        = if id ∈ ids then edges[id]?.map change else edges[id]? := by
  induction ids with
  | nil => intro edges; simp [changeEdges]
  | cons i ids ih =>
      intro edges
      have hcons : changeEdges change (i :: ids) edges
          = changeEdges change ids (edges.modify i change) := rfl
      rw [hcons, ih, List.getElem?_modify]
      by_cases hi : i = id
      · subst hi
        cases edges[i]? <;> simp [htwice]
      · simp [hi, Ne.symm hi]

lemma mem_expiring {stamps : List (Int × EdgeId)} {i : NodeId} {id : EdgeId} :
    id ∈ expiring stamps i ↔ ((i.toNat : Int), id) ∈ stamps := by
  simp only [expiring, List.mem_map, List.mem_filter, decide_eq_true_eq, Prod.exists]
  constructor
  · rintro ⟨_, _, ⟨hmem, rfl⟩, rfl⟩
    exact hmem
  · intro hmem
    exact ⟨_, _, ⟨hmem, rfl⟩, rfl⟩

end Walk

/-- A node touches an edge if it has the index of one of its ends. -/
def Node.Touches (n : Node) (e : Edge) : Prop := n.index = e.source ∨ n.index = e.target

instance (n : Node) (e : Edge) : Decidable (n.Touches e) := inferInstanceAs (Decidable (_ ∨ _))

namespace Walk

variable {g : Graph} {id : EdgeId} {e : Edge}

/-- Reaching a node stamps the edges that it touches with its stop. -/
lemma mem_stamps_reach (he : g.edges[id]? = some e) {w : Walk} {n : Node} {t : Int} :
    (t, id) ∈ (reach (.ofGraph g) w n).stamps
      ↔ (t, id) ∈ w.stamps ∨ n.Touches e ∧ (Dataset.ofGraph g).stopOf n = t := by
  have hout := Dataset.mem_outgoing_iff he n.index
  have hin := Dataset.mem_incoming_iff he n.index
  simp only [reach, List.mem_append, List.mem_map, Prod.mk.injEq, Node.Touches]
  grind

/-- The liveness of an edge after a node is reached: its ends with the index of the node are woken,
and then the edge is retracted if it carries the index as a stamp. -/
lemma getElem?_edges_reach (he : g.edges[id]? = some e) (w : Walk) (n : Node) :
    (reach (.ofGraph g) w n).visual.edges[id]?
      = w.visual.edges[id]?.map fun l =>
          if ((n.index.toNat : Int), id) ∈ (reach (.ofGraph g) w n).stamps then .dead
          else ⟨l.source || n.index = e.source, l.target || n.index = e.target⟩ := by
  have hout := Dataset.mem_outgoing_iff he n.index
  have hin := Dataset.mem_incoming_iff he n.index
  have hedges : (reach (.ofGraph g) w n).visual.edges
      = changeEdges (fun _ => .dead) (expiring (reach (.ofGraph g) w n).stamps n.index)
          (changeEdges .wakeTarget ((Dataset.ofGraph g).incoming n.index)
            (changeEdges .wakeSource ((Dataset.ofGraph g).outgoing n.index) w.visual.edges)) := rfl
  rw [hedges, getElem?_changeEdges (fun _ => .dead) (fun _ => rfl),
    getElem?_changeEdges .wakeTarget (fun _ => rfl),
    getElem?_changeEdges .wakeSource (fun _ => rfl)]
  simp only [mem_expiring, hout, hin]
  cases w.visual.edges[id]? with
  | none => simp
  | some l =>
      split
      · split <;> split <;> rfl
      · split <;> split <;> simp_all [Liveness.wakeSource, Liveness.wakeTarget]

end Walk
/-! ### The closed form -/

namespace Dataset

variable {d : Dataset} {e : Edge} {i : NodeId} {k : Nat}

/-- An edge carries a stamp among the first `k` nodes: one of them is reached, touches the edge and
has this stop. -/
def StampedBefore (d : Dataset) (e : Edge) (k : Nat) (t : Int) : Prop :=
  ∃ r < k, ∃ m, d.ReachedAt r m ∧ m.Touches e ∧ d.stopOf m = t

/-- An edge expires at a place: the node there is reached, and its index is the stop of a node that
has been reached by then and touches the edge. -/
def ExpiresAt (d : Dataset) (e : Edge) (q : Nat) : Prop :=
  ∃ n, d.ReachedAt q n ∧ ∃ r ≤ q, ∃ m, d.ReachedAt r m ∧ m.Touches e ∧ d.stopOf m = n.index.toNat

/-- An end with the given index is alive after `k` nodes: one of them is reached and has the index,
and from there on the edge does not expire. -/
def Woken (d : Dataset) (e : Edge) (i : NodeId) (k : Nat) : Prop :=
  ∃ p < k, (∃ n, d.ReachedAt p n ∧ n.index = i) ∧ ∀ q, p ≤ q → q < k → ¬ d.ExpiresAt e q

lemma not_stampedBefore_zero (t : Int) : ¬ d.StampedBefore e 0 t := by
  rintro ⟨r, hr, -⟩
  exact Nat.not_lt_zero r hr

/-- The place where an end is woken is one where the edge does not expire either. -/
lemma woken_iff_since :
    d.Woken e i k
      ↔ Since (fun p => (∃ n, d.ReachedAt p n ∧ n.index = i) ∧ ¬ d.ExpiresAt e p)
        (fun q => ¬ d.ExpiresAt e q) k := by
  constructor
  · rintro ⟨p, hp, hwake, hopen⟩
    exact ⟨p, hp, ⟨hwake, hopen p (Nat.le_refl p) hp⟩, fun q hpq => hopen q (Nat.le_of_lt hpq)⟩
  · rintro ⟨p, hp, ⟨hwake, hhere⟩, hopen⟩
    refine ⟨p, hp, hwake, fun q hpq hqk => ?_⟩
    rcases Nat.eq_or_lt_of_le hpq with rfl | hlt
    · exact hhere
    · exact hopen q hlt hqk

lemma not_woken_zero : ¬ d.Woken e i 0 := by
  rw [woken_iff_since]
  exact not_since_zero

/-- One more node adds its own stamp. -/
lemma stampedBefore_succ {t : Int} :
    d.StampedBefore e (k + 1) t
      ↔ d.StampedBefore e k t ∨ ∃ m, d.ReachedAt k m ∧ m.Touches e ∧ d.stopOf m = t := by
  constructor
  · rintro ⟨r, hr, m, hm⟩
    rcases Nat.lt_succ_iff_lt_or_eq.1 hr with hlt | rfl
    · exact .inl ⟨r, hlt, m, hm⟩
    · exact .inr ⟨m, hm⟩
  · rintro (⟨r, hr, m, hm⟩ | ⟨m, hm⟩)
    · exact ⟨r, Nat.lt_succ_of_lt hr, m, hm⟩
    · exact ⟨k, Nat.lt_succ_self k, m, hm⟩

/-- At a reached node an edge expires if it carries the index of the node as a stamp. -/
lemma expiresAt_iff {n : Node} (hn : d.ReachedAt k n) :
    d.ExpiresAt e k ↔ d.StampedBefore e (k + 1) n.index.toNat := by
  simp only [ExpiresAt, StampedBefore, Nat.lt_succ_iff]
  constructor
  · rintro ⟨n', hn', h⟩
    rw [hn.eq hn']
    exact h
  · intro h
    exact ⟨n, hn, h⟩

/-- One more node: an end stays alive, or is woken by the node, unless the edge expires there. -/
lemma woken_succ :
    d.Woken e i (k + 1)
      ↔ ¬ d.ExpiresAt e k ∧ (d.Woken e i k ∨ ∃ n, d.ReachedAt k n ∧ n.index = i) := by
  rw [woken_iff_since, since_succ, ← woken_iff_since, ← or_and_right, and_comm, or_comm]

/-- Where no node is reached nothing changes. -/
lemma stampedBefore_succ_of_not (hk : ∀ n, ¬ d.ReachedAt k n) {t : Int} :
    d.StampedBefore e (k + 1) t ↔ d.StampedBefore e k t := by
  simp [stampedBefore_succ, hk]

lemma woken_succ_of_not (hk : ∀ n, ¬ d.ReachedAt k n) : d.Woken e i (k + 1) ↔ d.Woken e i k := by
  simp [woken_succ, ExpiresAt, hk]

end Dataset

/-! ### The walk keeps the closed form -/

namespace Walk

variable {g : Graph} {id : EdgeId} {e : Edge} {k : Nat} {w : Walk}

/-- **The invariant of the walk for one edge**: after `k` nodes its stamps are the stops of the
nodes that touch it and its ends are alive as the closed form says. -/
structure Tracks (g : Graph) (id : EdgeId) (e : Edge) (k : Nat) (w : Walk) : Prop where
  stamped : ∀ t, (t, id) ∈ w.stamps ↔ (Dataset.ofGraph g).StampedBefore e k t
  liveness : ∃ l, w.visual.edges[id]? = some l
    ∧ (l.source = true ↔ (Dataset.ofGraph g).Woken e e.source k)
    ∧ (l.target = true ↔ (Dataset.ofGraph g).Woken e e.target k)

lemma Tracks.start (he : g.edges[id]? = some e) (step : Nat) :
    Tracks g id e 0 (start (.ofGraph g) step) where
  stamped t := by simp [Walk.start, Dataset.not_stampedBefore_zero]
  liveness := by
    have hid : id < g.edges.length := (List.getElem?_eq_some_iff.1 he).1
    refine ⟨.dead, ?_, ?_⟩
    · simp [Walk.start, Visual.blank, Dataset.ofGraph, hid]
    · simp [Liveness.dead, Dataset.not_woken_zero]

/-- Where no node is reached the walk keeps its edges and its stamps, and so the invariant. -/
lemma Tracks.of_not_reachedAt {w' : Walk} (h : Tracks g id e k w)
    (hk : ∀ n, ¬ (Dataset.ofGraph g).ReachedAt k n) (hstamps : w'.stamps = w.stamps)
    (hedges : w'.visual.edges = w.visual.edges) : Tracks g id e (k + 1) w' where
  stamped t := by rw [hstamps, h.stamped, Dataset.stampedBefore_succ_of_not hk]
  liveness := by
    simp only [hedges, Dataset.woken_succ_of_not hk]
    exact h.liveness

lemma Tracks.reached (he : g.edges[id]? = some e) {n : Node}
    (hn : (Dataset.ofGraph g).ReachedAt k n) (h : Tracks g id e k w) :
    Tracks g id e (k + 1) (reach (.ofGraph g) w n) := by
  have hstamped : ∀ t, (t, id) ∈ (reach (.ofGraph g) w n).stamps
      ↔ (Dataset.ofGraph g).StampedBefore e (k + 1) t := by
    intro t
    rw [mem_stamps_reach he, h.stamped, Dataset.stampedBefore_succ]
    refine or_congr_right ⟨fun ht => ⟨n, hn, ht⟩, ?_⟩
    rintro ⟨m, hm, ht⟩
    rw [hn.eq hm]
    exact ht
  have hwake : ∀ i, (∃ m, (Dataset.ofGraph g).ReachedAt k m ∧ m.index = i) ↔ n.index = i := by
    intro i
    constructor
    · rintro ⟨m, hm, rfl⟩
      rw [hn.eq hm]
    · intro hi
      exact ⟨n, hn, hi⟩
  refine ⟨hstamped, ?_⟩
  obtain ⟨l, hl, hsource, htarget⟩ := h.liveness
  refine ⟨_, by rw [getElem?_edges_reach he, hl, Option.map_some], ?_⟩
  rw [Dataset.woken_succ, Dataset.woken_succ, Dataset.expiresAt_iff hn, ← hstamped, ← hsource,
    ← htarget, hwake, hwake]
  by_cases hexp : ((n.index.toNat : Int), id) ∈ (reach (.ofGraph g) w n).stamps
  · simp [hexp, Liveness.dead]
  · simp [hexp]

/-- Every walk keeps the invariant of every edge. -/
lemma tracks_after (he : g.edges[id]? = some e) (step k : Nat) :
    Tracks g id e k (after (.ofGraph g) step k) := by
  refine after_induction (Tracks.start he step) ?_ ?_ ?_ k
  · intro k w n hn h
    rw [visit_of_nonneg hn.2]
    exact Tracks.reached he hn ⟨h.stamped, h.liveness⟩
  · intro k w n hn hneg h
    rw [visit_of_neg hneg]
    exact h.of_not_reachedAt (fun _ => Dataset.not_reachedAt_of_neg hn hneg) rfl rfl
  · intro k w hk h
    exact h.of_not_reachedAt (fun _ => Dataset.not_reachedAt_of_none hk) rfl rfl

end Walk

/-! ### The liveness of a step -/

namespace Dataset

variable {g : Graph} {last s : Nat}

/-- The ends of an edge at any step: a step past the last one adds no node, and changes nothing. -/
lemma exists_liveness_visualAt {id : EdgeId} {e : Edge} (he : g.edges[id]? = some e) (s : Nat) :
    ∃ l : Liveness, ((ofGraph g).visualAt s).edges[id]? = some l
      ∧ (l.source = true ↔ (ofGraph g).Woken e e.source (s + 1))
      ∧ (l.target = true ↔ (ofGraph g).Woken e e.target (s + 1)) := by
  obtain ⟨towards, hedges⟩ := edges_visualAt (ofGraph g) s
  rw [hedges]
  exact (Walk.tracks_after he towards (s + 1)).liveness

/-- An edge is shown at a step iff both of its ends are alive there. -/
lemma showsEdge_visualAt_iff {id : EdgeId} {e : Edge} (he : g.edges[id]? = some e) (s : Nat) :
    ((ofGraph g).visualAt s).showsEdge id = true
      ↔ (ofGraph g).Woken e e.source (s + 1) ∧ (ofGraph g).Woken e e.target (s + 1) := by
  obtain ⟨l, hl, hsource, htarget⟩ := exists_liveness_visualAt he s
  simp only [Visual.showsEdge, hl, Liveness.shown, Bool.and_eq_true, hsource, htarget]

/-- Past the last step the edges are those of the last one. -/
lemma edges_visualAt_of_lt (hlast : (ofGraph g).maxStep? = some last) (hs : last < s) :
    ((ofGraph g).visualAt s).edges = ((ofGraph g).visualAt last).edges := by
  obtain ⟨n, hn⟩ := exists_node_of_maxStep? hlast
  rw [visualAt_of_lt hlast hn hs]

/-- **The liveness of edges in closed form**: an end is alive at a step iff a node with its index
has been reached and from there on the edge has not expired.  Past the last step nothing changes,
and without nodes nothing is alive. -/
theorem liveness_visualAt (g : Graph) :
    (∀ last, (ofGraph g).maxStep? = some last →
      (∀ s ≤ last, ∀ (id : EdgeId) (e : Edge), g.edges[id]? = some e →
        ∃ l : Liveness, ((ofGraph g).visualAt s).edges[id]? = some l
          ∧ (l.source = true ↔
            ∃ p ≤ s, (∃ n, (ofGraph g).ReachedAt p n ∧ n.index = e.source)
              ∧ ∀ q, p ≤ q → q ≤ s → ¬ (ofGraph g).ExpiresAt e q)
          ∧ (l.target = true ↔
            ∃ p ≤ s, (∃ n, (ofGraph g).ReachedAt p n ∧ n.index = e.target)
              ∧ ∀ q, p ≤ q → q ≤ s → ¬ (ofGraph g).ExpiresAt e q))
      ∧ ∀ s > last, ((ofGraph g).visualAt s).edges = ((ofGraph g).visualAt last).edges)
    ∧ ((ofGraph g).maxStep? = none →
      ∀ s, ((ofGraph g).visualAt s).edges = List.replicate g.edges.length .dead) := by
  refine ⟨fun last hlast => ⟨fun s hs id e he => ?_, fun s hs => edges_visualAt_of_lt hlast hs⟩,
    fun hnone s => ?_⟩
  · obtain ⟨l, hl, hsource, htarget⟩ := exists_liveness_visualAt he s
    simp only [Woken, Nat.lt_succ_iff] at hsource htarget
    exact ⟨l, hl, hsource, htarget⟩
  · rw [visualAt_of_none hnone]
    rfl

/-- An edge whose target stops at once, so that it expires with both of its ends, and a second node
with the index of its source, which wakes that end again. -/
def reopened : Graph where
  nodes := [
    ⟨1, "stop", .plain, 1, some 1, false⟩,
    ⟨0, "start", .plain, 0, none, false⟩,
    ⟨0, "again", .plain, 2, none, false⟩]
  edges := [⟨0, 1, "x = 1;", 5⟩]

theorem liveness_reopened :
    (ofGraph reopened).maxStep? = some 2 ∧ reopened.edges[0]? = some ⟨0, 1, "x = 1;", 5⟩
      ∧ ((ofGraph reopened).visualAt 2).edges = [⟨true, false⟩]
      ∧ (∃ p ≤ 2, (∃ n, (ofGraph reopened).ReachedAt p n ∧ n.index = 0)
        ∧ ∀ q, p ≤ q → q ≤ 2 → ¬ (ofGraph reopened).ExpiresAt ⟨0, 1, "x = 1;", 5⟩ q)
      ∧ ¬ ∃ p ≤ 2, (∃ n, (ofGraph reopened).ReachedAt p n ∧ n.index = 1)
        ∧ ∀ q, p ≤ q → q ≤ 2 → ¬ (ofGraph reopened).ExpiresAt ⟨0, 1, "x = 1;", 5⟩ q := by
  have hlast : (ofGraph reopened).maxStep? = some 2 := by cbv
  have hedges : ((ofGraph reopened).visualAt 2).edges = [⟨true, false⟩] := by cbv
  have he : reopened.edges[0]? = some ⟨0, 1, "x = 1;", 5⟩ := rfl
  obtain ⟨l, hl, hsource, htarget⟩ :=
    ((liveness_visualAt reopened).1 2 hlast).1 2 (Nat.le_refl 2) 0 ⟨0, 1, "x = 1;", 5⟩ he
  obtain rfl : ⟨true, false⟩ = l := by simpa [hedges] using hl
  exact ⟨hlast, he, hedges, hsource.1 rfl, fun h => Bool.false_ne_true (htarget.2 h)⟩

end Dataset

end Retrace
