import Mathlib.Tactic.Lemma
import Retrace.Proofs.Replay.Liveness
import Retrace.Proofs.Replay.Progress
import Retrace.Proofs.Replay.Runs

/-!
The ends of the edges that a picture shows.

A step shows an edge only if both of its ends have been reached; the picture of every node and every
edge also shows edges that lead nowhere, but then every node is shown as well.

* `Visual.Grounded`: the ends of shown edges that are nodes are shown;
* `Dataset.grounded_visualAt`: every step is grounded;
* `Engine.grounded_run`: so is every picture that an engine comes to show.
-/

namespace Retrace

/-- The ends of the edges that are shown are shown, as far as there are nodes for them. -/
def Visual.Grounded (d : Dataset) (v : Visual) : Prop :=
  ∀ (id : EdgeId) (e : Edge), d.edges[id]? = some e → v.showsEdge id = true →
    ∀ n ∈ d.nodes, n.Touches e → n.index ∈ v.shownNodes

lemma Visual.grounded_blank (d : Dataset) : (blank d.edges.length).Grounded d := by
  intro id e he hshown
  have hid := (List.getElem?_eq_some_iff.1 he).1
  simp [showsEdge, blank, hid, Liveness.dead, Liveness.shown] at hshown

namespace Dataset

/-- What wakes an end has been reached. -/
lemma Woken.reachedBy {d : Dataset} {e : Edge} {i : NodeId} {s : Nat} (h : d.Woken e i (s + 1)) :
    d.ReachedBy s i := by
  obtain ⟨p, hp, hn, -⟩ := h
  exact ⟨p, Nat.le_of_lt_succ hp, hn⟩

lemma grounded_visualAt (g : Graph) (s : Nat) :
    ((ofGraph g).visualAt s).Grounded (ofGraph g) := by
  intro id e he hshown n _ htouch
  obtain ⟨hsource, htarget⟩ := (showsEdge_visualAt_iff he s).1 hshown
  rw [mem_shownNodes_visualAt]
  rcases htouch with h | h
  · rw [h]
    exact hsource.reachedBy
  · rw [h]
    exact htarget.reachedBy

end Dataset

namespace Engine

/-- Whatever an engine comes to show is grounded. -/
lemma grounded_run (g : Graph) (actions : List Action) :
    ((ofGraph g).run actions).visual.Grounded (.ofGraph g) := by
  refine (run_induction (P := fun e => e.dataset = .ofGraph g ∧ e.visual.Grounded (.ofGraph g))
    ?_ ⟨rfl, Visual.grounded_blank _⟩ actions).2
  rintro ⟨d, current, v⟩ a ⟨rfl, -⟩
  refine ⟨dataset_act _ a, ?_⟩
  cases a with
  | advanceTo _ | reset | stepForward | stepBack => exact Dataset.grounded_visualAt g _
  | showFull mode =>
      cases mode with
      | replay =>
          intro id e he hshown
          exact Dataset.grounded_visualAt g _ id e he hshown
      | revealAll =>
          -- every node is shown
          intro _ _ _ _ n hn _
          exact IdSet.mem_ofList.2 (List.mem_map_of_mem hn)

end Engine

end Retrace
