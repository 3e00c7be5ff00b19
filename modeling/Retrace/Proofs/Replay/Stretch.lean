import Mathlib.Tactic.Lemma
import Retrace.Proofs.Graph.Defects
import Retrace.Proofs.Replay.Liveness
import Retrace.Proofs.Replay.Progress

/-!
How long an edge is shown.

Where the indices of the nodes differ, an end of an edge is woken once, so it is alive from its node
on until the edge first expires, and never again.

* `Dataset.woken_iff_of_nodup`: when an end is alive;
* `Dataset.Woken.of_between`: an end that is alive early and late is alive all the time between;
* `Dataset.not_woken_of_reachedBy`: an edge that expires between its ends is never shown;
* `Dataset.showsEdge_stretch`: an edge is shown during one stretch of steps.
-/

namespace Retrace

namespace Dataset

variable {d : Dataset} {e : Edge} {i j : NodeId}

/-! ### One end -/

/-- Where indices differ, an end is alive iff its node has been reached and the edge has not expired
since. -/
lemma woken_iff_of_nodup (hnodup : (d.nodes.map (·.index)).Nodup) {p : Nat} {n : Node}
    (hn : d.ReachedAt p n) (k : Nat) :
    d.Woken e n.index k ↔ p < k ∧ ∀ q, p ≤ q → q < k → ¬ d.ExpiresAt e q := by
  constructor
  · rintro ⟨r, hr, ⟨m, hm, hmn⟩, hopen⟩
    obtain rfl : r = p := place_eq_of_index_eq hnodup hm.1 hn.1 hmn
    exact ⟨hr, hopen⟩
  · rintro ⟨hp, hopen⟩
    exact ⟨p, hp, ⟨n, hn, rfl⟩, hopen⟩

lemma Woken.of_between (hnodup : (d.nodes.map (·.index)).Nodup) {k₁ k₂ k₃ : Nat} (h₁ : k₁ ≤ k₂)
    (h₃ : k₂ ≤ k₃) (hearly : d.Woken e i k₁) (hlate : d.Woken e i k₃) : d.Woken e i k₂ := by
  obtain ⟨p, hp, ⟨n, hn, rfl⟩, -⟩ := hearly
  obtain ⟨-, hopen⟩ := (woken_iff_of_nodup hnodup hn k₃).1 hlate
  refine (woken_iff_of_nodup hnodup hn k₂).2 ⟨Nat.lt_of_lt_of_le hp h₁, fun q hpq hq => ?_⟩
  exact hopen q hpq (Nat.lt_of_lt_of_le hq h₃)

/-! ### Both ends -/

/-- If an end has been reached by a step and is not alive there, and the other end has not been
reached, then the two are never alive together. -/
lemma not_woken_of_reachedBy (hnodup : (d.nodes.map (·.index)).Nodup) {q : Nat}
    (hreached : d.ReachedBy q i) (hdead : ¬ d.Woken e i (q + 1)) (hother : ¬ d.ReachedBy q j)
    (k : Nat) : ¬ (d.Woken e i k ∧ d.Woken e j k) := by
  rintro ⟨hi, r, hr, ⟨m, hm, hmj⟩, -⟩
  obtain ⟨p, hp, n, hn, rfl⟩ := hreached
  have hqr : q < r := Nat.lt_of_not_le fun hrq => hother ⟨r, hrq, m, hm, hmj⟩
  -- the edge has expired by `q`, and nothing wakes the first end again
  refine hdead ((woken_iff_of_nodup hnodup hn (q + 1)).2
    ⟨Nat.lt_succ_of_le hp, fun q' hp' hq' => ?_⟩)
  exact ((woken_iff_of_nodup hnodup hn k).1 hi).2 q' hp' (by omega)

/-- At a step one end of an edge has been reached and retracted again, and the other end has not
been reached. -/
def HalfRetracted (g : Graph) (id : EdgeId) (e : Edge) (q : Nat) : Prop :=
  ∃ l : Liveness, ((ofGraph g).visualAt q).edges[id]? = some l ∧
    ((ofGraph g).ReachedBy q e.source ∧ l.source = false ∧ ¬ (ofGraph g).ReachedBy q e.target
      ∨ (ofGraph g).ReachedBy q e.target ∧ l.target = false ∧ ¬ (ofGraph g).ReachedBy q e.source)

variable {g : Graph} {id : EdgeId}

lemma showsEdge_of_halfRetracted (hnodup : ((ofGraph g).nodes.map (·.index)).Nodup)
    (he : g.edges[id]? = some e) {q : Nat} (hq : HalfRetracted g id e q) (s : Nat) :
    ((ofGraph g).visualAt s).showsEdge id = false := by
  obtain ⟨l, hl, hhalf⟩ := hq
  obtain ⟨l', hl', hsource, htarget⟩ := exists_liveness_visualAt he q
  obtain rfl : l = l' := Option.some.inj (hl.symm.trans hl')
  rw [Bool.eq_false_iff, Ne, showsEdge_visualAt_iff he]
  rcases hhalf with ⟨hreached, hdead, hother⟩ | ⟨hreached, hdead, hother⟩
  · rw [Bool.eq_false_iff, Ne, hsource] at hdead
    exact not_woken_of_reachedBy hnodup hreached hdead hother (s + 1)
  · rw [Bool.eq_false_iff, Ne, htarget] at hdead
    rw [and_comm]
    exact not_woken_of_reachedBy hnodup hreached hdead hother (s + 1)

/-- **An edge is shown during one stretch of steps**, where no two nodes have the same index: if it
is shown at two steps it is shown at every step between, so once it has disappeared it is never
shown again; and if one end is retracted before the other is reached it is never shown at all. -/
theorem showsEdge_stretch (hunique : ∀ i, .duplicateNode i ∉ (ofGraph g).diagnostics)
    (he : g.edges[id]? = some e) :
    (∀ s₁ s₂ s₃, s₁ < s₂ → s₂ < s₃ → ((ofGraph g).visualAt s₁).showsEdge id = true →
      ((ofGraph g).visualAt s₃).showsEdge id = true →
        ((ofGraph g).visualAt s₂).showsEdge id = true)
    ∧ (∀ s₁ s₂ s₃, s₁ < s₂ → s₂ < s₃ → ((ofGraph g).visualAt s₁).showsEdge id = true →
      ((ofGraph g).visualAt s₂).showsEdge id = false →
        ((ofGraph g).visualAt s₃).showsEdge id = false)
    ∧ ∀ q, HalfRetracted g id e q → ∀ s, ((ofGraph g).visualAt s).showsEdge id = false := by
  have hnodup := nodup_index_of_not_mem hunique
  have hbetween : ∀ s₁ s₂ s₃, s₁ < s₂ → s₂ < s₃ → ((ofGraph g).visualAt s₁).showsEdge id = true →
      ((ofGraph g).visualAt s₃).showsEdge id = true →
        ((ofGraph g).visualAt s₂).showsEdge id = true := by
    intro s₁ s₂ s₃ h₁₂ h₂₃ h₁ h₃
    rw [showsEdge_visualAt_iff he] at h₁ h₃ ⊢
    have h₁₂' : s₁ + 1 ≤ s₂ + 1 := by omega
    have h₂₃' : s₂ + 1 ≤ s₃ + 1 := by omega
    exact ⟨h₁.1.of_between hnodup h₁₂' h₂₃' h₃.1, h₁.2.of_between hnodup h₁₂' h₂₃' h₃.2⟩
  refine ⟨hbetween, fun s₁ s₂ s₃ h₁₂ h₂₃ h₁ h₂ => ?_, fun q hq s => ?_⟩
  · rw [Bool.eq_false_iff]
    intro h₃
    exact Bool.false_ne_true (h₂.symm.trans (hbetween s₁ s₂ s₃ h₁₂ h₂₃ h₁ h₃))
  · exact showsEdge_of_halfRetracted hnodup he hq s

/-- A node is skipped.  The first edge is shown until node 3 is reached, where its target stops; the
second one expires there, too, before its own target is reached; the third one leads nowhere. -/
def vanishing : Graph where
  nodes := [
    ⟨0, "start", .plain, 0, none, false⟩,
    ⟨1, "open", .plain, 1, some 3, false⟩,
    ⟨9, "skipped", .plain, -1, none, false⟩,
    ⟨3, "stop", .plain, 2, some 3, false⟩,
    ⟨4, "end", .plain, 3, none, false⟩]
  edges := [⟨0, 1, "x = 1;", 5⟩, ⟨3, 4, "x = 2;", 6⟩, ⟨3, 8, "", -1⟩]

theorem showsEdge_vanishing :
    (∀ i, .duplicateNode i ∉ (ofGraph vanishing).diagnostics)
      ∧ ((ofGraph vanishing).visualAt 2).showsEdge 0 = true
      ∧ (∀ s > 3, ((ofGraph vanishing).visualAt s).showsEdge 0 = false)
      ∧ HalfRetracted vanishing 1 ⟨3, 4, "x = 2;", 6⟩ 3
      ∧ ∀ s, ((ofGraph vanishing).visualAt s).showsEdge 1 = false := by
  have hdiagnostics : (ofGraph vanishing).diagnostics = [.danglingEdge 2 8] := by cbv
  have hunique : ∀ i, .duplicateNode i ∉ (ofGraph vanishing).diagnostics := by
    simp [hdiagnostics]
  have hshown : ((ofGraph vanishing).visualAt 2).showsEdge 0 = true := by cbv
  have hgone : ((ofGraph vanishing).visualAt 3).showsEdge 0 = false := by cbv
  have hreached : ((ofGraph vanishing).visualAt 3).shownNodes.toList = [0, 1, 3] := by cbv
  have hhalf : HalfRetracted vanishing 1 ⟨3, 4, "x = 2;", 6⟩ 3 := by
    refine ⟨.dead, by cbv, .inl ⟨?_, rfl, ?_⟩⟩ <;>
      rw [← mem_shownNodes_visualAt, IdSet.mem_def, hreached] <;> decide
  have hfirst : vanishing.edges[0]? = some ⟨0, 1, "x = 1;", 5⟩ := rfl
  refine ⟨hunique, hshown, fun s hs => ?_, hhalf, ?_⟩
  · exact (showsEdge_stretch hunique hfirst).2.1 2 3 s (by decide) hs hshown hgone
  · exact (showsEdge_stretch hunique rfl).2.2 3 hhalf

end Dataset

end Retrace
