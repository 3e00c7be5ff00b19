import Mathlib.Tactic.Lemma
import Retrace.Canvas.Basic
import Retrace.Proofs.Scene.Evolution

/-!
How long a canvas can be animated.

A frame fails only if the running scene holds a particle that is joined to itself.  No gesture, no
resize and no frame changes the springs, the number of particles or whether they move, so a canvas
is able to go on for ever or fails at the first frame it is given.

* `Board.skeleton_press` and its companions: gestures keep the skeleton of the scene;
* `Canvas.Free`, `Canvas.Stuck`: the canvases that go on and those that do not, with
  `Canvas.mount_free`, `Canvas.mount_stuck`;
* `Canvas.frames_succ_eq_ok`: frames one after the other; `Canvas.frames_of_free`,
  `Canvas.frames_of_stuck`: what frames lead to;
* `Canvas.Free.handle`, `Canvas.Stuck.handle` and their companions: nothing else matters.
-/

namespace Retrace

open Simulation

/-! ### Gestures -/

namespace Board

variable (b : Board) (v : Visual) (x y : Float)

/-- A press takes hold of something and leaves the scene alone. -/
lemma scene_press : (b.press v x y).scene = b.scene := by
  rw [press]
  split
  · split <;> rfl
  · rfl

lemma skeleton_press : (b.press v x y).scene.skeleton = b.scene.skeleton := by rw [scene_press]

lemma skeleton_move : (b.move v x y).scene.skeleton = b.scene.skeleton := by
  rw [move]
  cases b.drag with
  | some d => exact Scene.skeleton_changeBody _ _ _
  | none =>
      cases b.pan with
      | some p => exact Scene.skeleton_setHover _ _
      | none => exact Scene.skeleton_setHover _ _

lemma skeleton_zoom (delta : Float) : (b.zoom x y delta).scene.skeleton = b.scene.skeleton := rfl

lemma skeleton_leave : b.leave.scene.skeleton = b.scene.skeleton :=
  Scene.skeleton_setHover _ _

end Board

namespace Canvas

/-- The skeleton of the scene, once there is one. -/
def skeleton? (c : Canvas) : Option (Springs × Nat × Bool) := c.board.map (·.scene.skeleton)

/-- No particle of the canvas is joined to itself. -/
def Free (c : Canvas) : Prop :=
  ∀ springs count running, c.skeleton? = some (springs, count, running) → ¬ Looped springs count

/-- The canvas waits for a frame that has to move a particle joined to itself. -/
def Stuck (c : Canvas) : Prop :=
  c.framePending = true ∧ ∃ springs count, c.skeleton? = some (springs, count, true) ∧
    Looped springs count

variable {c : Canvas} {env : Surroundings} {v : Visual}

lemma Free.of_skeleton?_eq {other : Canvas} (h : c.Free)
    (hskeleton : other.skeleton? = c.skeleton?) : other.Free := by
  intro springs count running hother
  exact h springs count running (hskeleton.symm.trans hother)

lemma skeleton?_changeBoard {change : Board → Board}
    (h : ∀ b, (change b).scene.skeleton = b.scene.skeleton) :
    (c.changeBoard change).skeleton? = c.skeleton? := by
  simp [skeleton?, changeBoard, Function.comp_def, h]

lemma skeleton?_changeAt {change : Board → Float → Float → Board}
    (h : ∀ b x y, (change b x y).scene.skeleton = b.scene.skeleton) (x y : Float) :
    (c.changeAt env x y change).skeleton? = c.skeleton? := by
  rw [changeAt]
  split
  · exact skeleton?_changeBoard fun b => h b _ _
  · rfl

lemma framePending_changeAt {change : Board → Float → Float → Board} (x y : Float) :
    (c.changeAt env x y change).framePending = c.framePending := by
  rw [changeAt]
  split <;> rfl

/-- A gesture changes neither the skeleton nor whether a frame is awaited. -/
lemma keeps_handle (g : Gesture) :
    (c.handle env v g).1.skeleton? = c.skeleton?
      ∧ (c.handle env v g).1.framePending = c.framePending := by
  cases g with
  | press x y =>
      exact ⟨skeleton?_changeAt (fun b x y => b.skeleton_press v x y) x y,
        framePending_changeAt x y⟩
  | move x y =>
      exact ⟨skeleton?_changeAt (fun b x y => b.skeleton_move v x y) x y,
        framePending_changeAt x y⟩
  | release => exact ⟨skeleton?_changeBoard fun _ => rfl, rfl⟩
  | leave => exact ⟨skeleton?_changeBoard Board.skeleton_leave, rfl⟩
  | wheel x y delta =>
      exact ⟨skeleton?_changeAt (fun b x y => b.skeleton_zoom x y delta) x y,
        framePending_changeAt x y⟩

lemma keeps_windowResized :
    (c.windowResized env).1.skeleton? = c.skeleton?
      ∧ (c.windowResized env).1.framePending = c.framePending := by
  rw [windowResized]
  split
  · split
    · exact ⟨skeleton?_changeBoard fun _ => rfl, rfl⟩
    · exact ⟨rfl, rfl⟩
  · exact ⟨rfl, rfl⟩

lemma Free.handle (h : c.Free) (g : Gesture) : (c.handle env v g).1.Free :=
  h.of_skeleton?_eq (keeps_handle g).1

lemma Stuck.handle (h : c.Stuck) (g : Gesture) : (c.handle env v g).1.Stuck := by
  rw [Stuck, (keeps_handle g).1, (keeps_handle g).2]
  exact h

lemma Free.windowResized (h : c.Free) : (c.windowResized env).1.Free :=
  h.of_skeleton?_eq keeps_windowResized.1

lemma Stuck.windowResized (h : c.Stuck) : (c.windowResized env).1.Stuck := by
  rw [Stuck, keeps_windowResized.1, keeps_windowResized.2]
  exact h

/-! ### Frames -/

/-- Frames begin with one frame. -/
lemma frames_succ_eq_ok {after : Canvas} {effects : List Effect} {n : Nat}
    (h : frames env v (n + 1) c = .ok (after, effects)) :
    ∃ next drawn, c.frame env v = .ok (next, drawn) ∧
      ∃ effects, frames env v n next = .ok (after, effects) := by
  cases n with
  | zero => exact ⟨after, effects, h, [], rfl⟩
  | succ n =>
      rw [frames] at h
      · split at h
        · cases h
        · case _ next drawn hframe => exact ⟨next, drawn, hframe, effects, h⟩
      · exact fun hn => nomatch hn

lemma frame_of_free (env : Surroundings) (v : Visual) (h : c.Free) :
    ∃ after effects, c.frame env v = .ok (after, effects) ∧ after.Free := by
  obtain ⟨board, framePending, followsWindow⟩ := c
  cases framePending with
  | false => exact ⟨_, _, rfl, h⟩
  | true =>
      cases board with
      | none => exact ⟨_, _, rfl, h.of_skeleton?_eq rfl⟩
      | some b =>
          cases hrunning : b.scene.running with
          | false =>
              refine ⟨⟨some b, env.window, followsWindow⟩, (b.scene.paint v).map .draw, ?_,
                h.of_skeleton?_eq rfl⟩
              simp [frame, boardFrame, hrunning]
          | true =>
              obtain ⟨scene, hscene, hskeleton⟩ :=
                Scene.tick_of_not_looped frameTime (h _ _ _ rfl)
              refine ⟨⟨some { b with scene }, env.window, followsWindow⟩,
                (scene.paint v).map .draw, ?_, h.of_skeleton?_eq (congrArg some hskeleton)⟩
              simp [frame, boardFrame, hrunning, hscene]

lemma frame_of_stuck (h : c.Stuck) : c.frame env v = .error .selfAttraction := by
  obtain ⟨hpending, springs, count, hskeleton, hlooped⟩ := h
  obtain ⟨b, hb, hscene⟩ := Option.map_eq_some_iff.mp hskeleton
  simp only [Scene.skeleton, Prod.mk.injEq] at hscene
  obtain ⟨rfl, rfl, hrunning⟩ := hscene
  simp [frame, boardFrame, hpending, hb, hrunning, Scene.tick_of_looped frameTime hlooped]

lemma frames_of_free (env : Surroundings) (v : Visual) (h : c.Free) (n : Nat) :
    ∃ after effects, frames env v n c = .ok (after, effects) ∧ after.Free := by
  induction n generalizing c with
  | zero => exact ⟨c, [], rfl, h⟩
  | succ n ih =>
      obtain ⟨next, effects, hnext, hfree⟩ := frame_of_free env v h
      cases n with
      | zero => exact ⟨next, effects, hnext, hfree⟩
      | succ n =>
          obtain ⟨after, effects', hafter, hfree'⟩ := ih hfree
          exact ⟨after, effects', by simpa [frames, hnext] using hafter, hfree'⟩

lemma frames_of_stuck (h : c.Stuck) (n : Nat) :
    frames env v (n + 1) c = .error .selfAttraction := by
  cases n with
  | zero => exact frame_of_stuck h
  | succ n => simp [frames, frame_of_stuck h]

/-! ### Mounting -/

variable {options : CanvasOptions} {d : Dataset}

lemma mount_free (h : ¬ (env.mounted ∧ env.window ∧ env.drawable ∧ d.HasLoop)) :
    (mount options env d).1.Free := by
  intro springs count running hskeleton hlooped
  rw [mount] at hskeleton
  split at hskeleton
  · case isTrue hthere =>
      dsimp only at hskeleton
      split at hskeleton
      · case isTrue hdrawable =>
          simp only [skeleton?, Board.ofScene, Option.map_some, Option.some.injEq, Scene.skeleton,
            Prod.mk.injEq] at hskeleton
          obtain ⟨rfl, rfl, -⟩ := hskeleton
          rw [Bool.and_eq_true] at hthere
          exact h ⟨hthere.1, hthere.2, hdrawable, (Scene.looped_ofDataset_iff _ _ _).mp hlooped⟩
      · cases hskeleton
  · cases hskeleton

lemma mount_stuck (hmounted : env.mounted) (hwindow : env.window) (hdrawable : env.drawable)
    (h : d.HasLoop) : (mount options env d).1.Stuck := by
  rw [mount, hmounted, hwindow, hdrawable]
  exact ⟨rfl, _, _, rfl, (Scene.looped_ofDataset_iff _ _ _).mpr h⟩

end Canvas

end Retrace
