import Retrace.Proofs.Canvas.Gestures

/-!
What becomes of the scene on a page.

Gestures, resizes and frames are the only ways in which a page changes its scene, and all that they
do is what can happen to any scene.

* `Scene.Elapses.becomes`, `Board.Step.becomes`: time, and whatever else a moment can do;
* `Canvas.ComesFrom`: the scene of a canvas has come from another one;
  `Canvas.comesFrom_mount`, `Canvas.ComesFrom.take`: at first it is the scene of the dataset, and it
  goes on to come from that one;
* `Page.comesFrom_run`: so it does on the page of a report, whatever happens there.
-/

namespace Retrace

variable {s : Scene}

lemma Scene.Elapses.becomes {t u : Scene} (h : t.Elapses u) (ht : s.Becomes t) : s.Becomes u := by
  induction h with
  | refl => exact ht
  | tail _ hlast ih =>
      obtain ⟨dt, hdt⟩ := hlast
      exact ih.tick dt hdt

namespace Board

variable {b b' : Board}

lemma becomes_follow {t : Scene} (h : s.Becomes t) (g : Drag) (x y : Float) :
    s.Becomes (follow t g x y) := by
  rw [follow]
  exact h.place g.node _

lemma becomes_move (h : s.Becomes b.scene) (v : Visual) (x y : Float) :
    s.Becomes (b.move v x y).scene := by
  rw [move]
  cases b.drag with
  | some g => exact becomes_follow (h.point (x, y)) g x y
  | none =>
      cases b.pan with
      | some p => exact ((h.point (x, y)).hover _).transform _
      | none => exact (h.point (x, y)).hover _

/-- All that a moment does to a board can happen to any scene. -/
lemma Step.becomes {m : Moment} (hstep : b.Step m b') (h : s.Becomes b.scene) :
    s.Becomes b'.scene := by
  cases hstep with
  | rest | release => exact h
  | press => rwa [scene_press]
  | move => exact becomes_move h _ _ _
  | leave => exact h.hover none
  | zoom => exact h.transform _
  | frames _ hscene => exact hscene.becomes h
  | resize _ width height => exact h.resize width height

end Board

namespace Canvas

/-- The scene of the canvas, if there is one, has come from the given one. -/
def ComesFrom (c : Canvas) (s : Scene) : Prop := ∀ b, c.board = some b → s.Becomes b.scene

/-- The board of a canvas that has just been mounted. -/
lemma eq_of_board_mount {options : CanvasOptions} {env : Surroundings} {d : Dataset} {b : Board}
    (hb : (mount options env d).1.board = some b) :
    b = .ofScene (.ofDataset d (sizeOn options env).1 (sizeOn options env).2
      options.showEdgeLabels) := by
  rw [mount] at hb
  split at hb
  · dsimp only at hb
    split at hb
    · cases hb
      rfl
    · cases hb
  · cases hb

lemma comesFrom_mount (options : CanvasOptions) (env : Surroundings) (d : Dataset) :
    (mount options env d).1.ComesFrom (.ofDataset d (sizeOn options env).1 (sizeOn options env).2
      options.showEdgeLabels) := by
  intro b hb
  rw [eq_of_board_mount hb]
  exact .refl

lemma ComesFrom.take {c after : Canvas} {env : Surroundings} {v : Visual} {x : PageEvent}
    (h : c.ComesFrom s) (hafter : c.take env v x = .ok after) : after.ComesFrom s := by
  intro b' hb'
  obtain ⟨b, hb, hstep⟩ := (steps_take (m := ⟨env, v, x⟩) hafter).exists_before hb'
  exact hstep.becomes (h b hb)

end Canvas

/-- As long as the canvas of a viewer goes on, its scene comes from the same one. -/
lemma Viewer.comesFrom_run {v : Viewer} {c : Canvas} (hc : v.canvas = .ok c) (h : c.ComesFrom s)
    (events : List (Browser × PageEvent)) {after : Canvas}
    (hafter : (v.run events).canvas = .ok after) : after.ComesFrom s := by
  induction events using List.reverseRecOn generalizing after with
  | nil =>
      obtain rfl := Except.ok.inj (hc.symm.trans hafter)
      exact h
  | append_singleton events x ih =>
      obtain ⟨b, x⟩ := x
      rw [run_concat, viewer_turn] at hafter
      dsimp only at hafter
      cases hbefore : (v.run events).canvas with
      | error f =>
          rw [hbefore] at hafter
          cases hafter
      | ok before =>
          rw [hbefore] at hafter
          exact (ih hbefore).take hafter

namespace Page

/-- **The scene on a page** has come from the scene of the graph of its report, whatever has
happened on the page. -/
theorem comesFrom_run (b : Browser) (r : Report) (events : List (Browser × PageEvent)) :
    ∃ width height, ∀ c, (r.pageAfter b events).canvas? = some (.ok c) →
      c.ComesFrom (.ofDataset (.ofGraph r.graph) width height r.settings.showEdgeLabels) := by
  have hmount := Canvas.comesFrom_mount { showEdgeLabels := r.settings.showEdgeLabels }
    b.toSurroundings (.ofGraph r.graph)
  rw [r.pageAfter_eq]
  exact ⟨_, _, fun c hc => Viewer.comesFrom_run rfl hmount events (Option.some.inj hc)⟩

end Page

end Retrace
