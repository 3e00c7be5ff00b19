import Mathlib.Tactic.Lemma
import Retrace.Proofs.Replay.Stretch

/-!
Edges whose ends have no stop.

A node without a stop stamps its edges with `Dataset.never`, one past the last start.  Stamps are
compared with indices and not with starts, so a node whose index happens to be that number retracts
the edges that are meant to stay:

* `open_edge_retracted`: a graph without defects in which an edge without a stop is never shown;
* `expiresAt_iff_of_openAt`: such an edge expires exactly at the nodes with that index;
* `showsEdge_iff_of_openAt`: it is shown from its later end on iff no node with that index is
  reached from its earlier end on.
-/

namespace Retrace

/-- A node without a stop; a stop of zero counts as none. -/
def Node.Open (n : Node) : Prop := n.intervalStop = none ∨ n.intervalStop = some 0

namespace Dataset

/-- The stop of the nodes without one: one past the last start. -/
def never (d : Dataset) : Int := d.maxInterval.toInt + 1

lemma stopOf_of_open (d : Dataset) {n : Node} (hn : n.Open) : d.stopOf n = d.never := by
  rcases hn with h | h <;> simp [stopOf, never, h]

/-- An edge whose ends are reached at the given places and have no stop. -/
structure OpenAt (g : Graph) (id : EdgeId) (e : Edge) (i j : Nat) : Prop where
  edge : g.edges[id]? = some e
  source : ∃ a, (ofGraph g).ReachedAt i a ∧ a.index = e.source ∧ a.Open
  target : ∃ b, (ofGraph g).ReachedAt j b ∧ b.index = e.target ∧ b.Open

/-! ### A collision -/

/-- The last start is one, and a node has the index two. -/
def colliding : Graph where
  nodes := [⟨0, "start", .plain, 0, none, false⟩, ⟨2, "end", .plain, 1, none, false⟩]
  edges := [⟨0, 2, "x = 1;", 5⟩]

/-- An edge without a stop is not always shown once both of its ends have been reached: it is
retracted by a node whose index is one past the last start. -/
theorem open_edge_retracted :
    ¬ ∀ (g : Graph) (id : EdgeId) (e : Edge) (i j s : Nat), (ofGraph g).diagnostics = [] →
      OpenAt g id e i j → i ≤ s → j ≤ s → ((ofGraph g).visualAt s).showsEdge id = true := by
  intro hall
  have hopen : OpenAt colliding 0 ⟨0, 2, "x = 1;", 5⟩ 0 1 :=
    { edge := rfl
      source := ⟨⟨0, "start", .plain, 0, none, false⟩, ⟨by cbv, by decide⟩, rfl, .inl rfl⟩
      target := ⟨⟨2, "end", .plain, 1, none, false⟩, ⟨by cbv, by decide⟩, rfl, .inl rfl⟩ }
  have hclean : (ofGraph colliding).diagnostics = [] := by cbv
  have hshown := hall colliding 0 _ 0 1 1 hclean hopen (Nat.zero_le 1) (Nat.le_refl 1)
  have hhidden : ((ofGraph colliding).visualAt 1).showsEdge 0 = false := by cbv
  exact Bool.false_ne_true (hhidden.symm.trans hshown)

/-! ### When an open edge is shown -/

variable {g : Graph} {id : EdgeId} {e : Edge} {i j : Nat}

/-- An edge without a stop expires where a node is reached whose index stands for no stop. -/
lemma expiresAt_iff_of_openAt (hclean : (ofGraph g).diagnostics = []) (h : OpenAt g id e i j)
    (q : Nat) :
    (ofGraph g).ExpiresAt e q
      ↔ min i j ≤ q ∧ ∃ n, (ofGraph g).ReachedAt q n ∧
          (n.index.toNat : Int) = (ofGraph g).never := by
  obtain ⟨a, ha, haindex, haopen⟩ := h.source
  obtain ⟨b, hb, hbindex, hbopen⟩ := h.target
  have hnodup := nodup_index_of_diagnostics hclean
  constructor
  · rintro ⟨n, hn, r, hr, m, hm, htouch, hstop⟩
    -- indices differ, so what touches the edge is one of its two ends
    rcases htouch with hsource | htarget
    · obtain rfl : r = i := place_eq_of_index_eq hnodup hm.1 ha.1 (hsource.trans haindex.symm)
      rw [hm.eq ha, stopOf_of_open _ haopen] at hstop
      exact ⟨by omega, n, hn, hstop.symm⟩
    · obtain rfl : r = j := place_eq_of_index_eq hnodup hm.1 hb.1 (htarget.trans hbindex.symm)
      rw [hm.eq hb, stopOf_of_open _ hbopen] at hstop
      exact ⟨by omega, n, hn, hstop.symm⟩
  · rintro ⟨hq, n, hn, hnever⟩
    by_cases hi : i ≤ q
    · exact ⟨n, hn, i, hi, a, ha, .inl haindex, (stopOf_of_open _ haopen).trans hnever.symm⟩
    · exact ⟨n, hn, j, by omega, b, hb, .inr hbindex, (stopOf_of_open _ hbopen).trans hnever.symm⟩

/-- An edge without a stop is shown from its later end on until it expires. -/
lemma showsEdge_iff_not_expiresAt (hclean : (ofGraph g).diagnostics = []) (h : OpenAt g id e i j)
    {s : Nat} (hi : i ≤ s) (hj : j ≤ s) :
    ((ofGraph g).visualAt s).showsEdge id = true
      ↔ ∀ q, min i j ≤ q → q ≤ s → ¬ (ofGraph g).ExpiresAt e q := by
  obtain ⟨a, ha, haindex, -⟩ := h.source
  obtain ⟨b, hb, hbindex, -⟩ := h.target
  have hnodup := nodup_index_of_diagnostics hclean
  rw [showsEdge_visualAt_iff h.edge, ← haindex, ← hbindex, woken_iff_of_nodup hnodup ha,
    woken_iff_of_nodup hnodup hb]
  constructor
  · rintro ⟨⟨-, hsource⟩, -, htarget⟩ q hq hqs
    by_cases hiq : i ≤ q
    · exact hsource q hiq (by omega)
    · exact htarget q (by omega) (by omega)
  · intro hopen
    exact ⟨⟨by omega, fun q hq hqs => hopen q (by omega) (by omega)⟩,
      by omega, fun q hq hqs => hopen q (by omega) (by omega)⟩

/-- **When an edge without a stop stays**: from its later end on it is shown at a step iff no node
has been reached, since its earlier end, whose index is one past the last start; hence it is shown
at all these steps iff there is no such node at all. -/
theorem showsEdge_iff_of_openAt (hclean : (ofGraph g).diagnostics = []) (h : OpenAt g id e i j) :
    (∀ s, i ≤ s → j ≤ s → (((ofGraph g).visualAt s).showsEdge id = true
      ↔ ∀ q n, min i j ≤ q → q ≤ s → (ofGraph g).ReachedAt q n →
          (n.index.toNat : Int) ≠ (ofGraph g).never))
    ∧ ((∀ s, i ≤ s → j ≤ s → ((ofGraph g).visualAt s).showsEdge id = true)
      ↔ ∀ q n, min i j ≤ q → (ofGraph g).ReachedAt q n →
          (n.index.toNat : Int) ≠ (ofGraph g).never) := by
  have hstep : ∀ s, i ≤ s → j ≤ s → (((ofGraph g).visualAt s).showsEdge id = true
      ↔ ∀ q n, min i j ≤ q → q ≤ s → (ofGraph g).ReachedAt q n →
          (n.index.toNat : Int) ≠ (ofGraph g).never) := by
    intro s hi hj
    rw [showsEdge_iff_not_expiresAt hclean h hi hj]
    simp only [expiresAt_iff_of_openAt hclean h]
    constructor
    · intro hopen q n hq hqs hn hnever
      exact hopen q hq hqs ⟨hq, n, hn, hnever⟩
    · rintro hopen q hq hqs ⟨-, n, hn, hnever⟩
      exact hopen q n hq hqs hn hnever
  refine ⟨hstep, fun hshown q n hq hn => ?_, fun hfree s hi hj => ?_⟩
  · -- the step at which both ends and the node at `q` have been reached
    have hlater := hshown (max (max i j) q) (by omega) (by omega)
    exact (hstep _ (by omega) (by omega)).1 hlater q n hq (by omega) hn
  · exact (hstep s hi hj).2 fun q n hq _ hn => hfree q n hq hn

/-- The indices go on from the starts, so one past the last start is no index. -/
def consecutive : Graph where
  nodes := [⟨0, "start", .plain, 0, none, false⟩, ⟨1, "end", .plain, 1, some 0, false⟩]
  edges := [⟨0, 1, "x = 1;", 5⟩]

theorem showsEdge_consecutive :
    (ofGraph consecutive).diagnostics = [] ∧ OpenAt consecutive 0 ⟨0, 1, "x = 1;", 5⟩ 0 1
      ∧ ∀ s, 0 ≤ s → 1 ≤ s → ((ofGraph consecutive).visualAt s).showsEdge 0 = true := by
  have hnodes : (ofGraph consecutive).nodes
      = [⟨0, "start", .plain, 0, none, false⟩, ⟨1, "end", .plain, 1, some 0, false⟩] := by cbv
  have hnever : (ofGraph consecutive).never = 2 := by cbv
  have hclean : (ofGraph consecutive).diagnostics = [] := by cbv
  have hopen : OpenAt consecutive 0 ⟨0, 1, "x = 1;", 5⟩ 0 1 :=
    { edge := rfl
      source := ⟨⟨0, "start", .plain, 0, none, false⟩, ⟨by rw [hnodes]; rfl, by decide⟩, rfl,
        .inl rfl⟩
      target := ⟨⟨1, "end", .plain, 1, some 0, false⟩, ⟨by rw [hnodes]; rfl, by decide⟩, rfl,
        .inr rfl⟩ }
  refine ⟨hclean, hopen, (showsEdge_iff_of_openAt hclean hopen).2.2 fun q n _ hn => ?_⟩
  have hmem : n ∈ (ofGraph consecutive).nodes := List.mem_of_getElem? hn.1
  rw [hnodes, List.mem_cons, List.mem_singleton] at hmem
  rw [hnever]
  rcases hmem with rfl | rfl <;> decide

end Dataset

end Retrace
