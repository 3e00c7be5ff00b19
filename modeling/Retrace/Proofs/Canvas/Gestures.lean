import Retrace.Proofs.Canvas.Switches
import Retrace.Proofs.Scene.Anchors

/-!
What gestures own.

A press takes hold of a shown particle or of the plane, a move carries along what is held, the wheel
scales the plane, and frames let the simulation go on.  Nothing else is touched, in whatever order
this happens.

* `Moment.At`, `Moment.Moves`, `Moment.Wheels`, `Moment.OutOfReach`: what happens at a moment;
* `Board.Step`: what a moment can do to a board; `Canvas.steps_take`: it does one of these things;
* `Board.Touched`, `Board.Step.touched`: what may have changed afterwards;
* `Canvas.Touches`, `Canvas.touches_take`: the same for a canvas.
-/

namespace Retrace

/-! ### Moments -/

namespace Moment

variable (m : Moment)

/-- A gesture at a point of the canvas; the position of the pointer is available. -/
def At (gesture : Float → Float → Gesture) (point : Float × Float) : Prop :=
  ∃ x y, m.event = .gesture (gesture x y) ∧ m.env.onCanvas? x y = some point

/-- The pointer moves, and its position is available. -/
def Moves : Prop := ∃ point, m.At .move point

/-- The wheel turns. -/
def Wheels : Prop := ∃ x y delta, m.event = .gesture (.wheel x y delta)

/-- A gesture of the pointer, whose position is not available. -/
def OutOfReach : Prop :=
  ∃ x y, m.env.onCanvas? x y = none ∧ (m.event = .gesture (.press x y) ∨
    m.event = .gesture (.move x y) ∨ ∃ delta, m.event = .gesture (.wheel x y delta))

end Moment

/-! ### One moment -/

/-- What a moment can do to a board. -/
inductive Board.Step (m : Moment) (b : Board) : Board → Prop
  /-- Nothing, unless it moves the pointer. -/
  | rest (h : ¬ m.Moves) : b.Step m b
  | press {x y : Float} (h : m.At .press (x, y)) : b.Step m (b.press m.visual x y)
  | move {x y : Float} (h : m.At .move (x, y)) : b.Step m (b.move m.visual x y)
  | release (h : m.event = .gesture .release) : b.Step m b.release
  | leave (h : m.event = .gesture .leave) : b.Step m b.leave
  | zoom {x y delta : Float} (h : m.Wheels) : b.Step m (b.zoom x y delta)
  /-- Time passes. -/
  | frames {n : Nat} {scene : Scene} (h : m.event = .frames n) (hscene : b.scene.Elapses scene) :
    b.Step m { b with scene }
  | resize (h : m.event = .windowResized) (width height : Float) :
    b.Step m { b with scene := b.scene.resize width height }

namespace Canvas

/-- The boards of two canvases, if there are any, are related. -/
def Boards (R : Board → Board → Prop) (c after : Canvas) : Prop :=
  (c.board = none ∧ after.board = none) ∨
    ∃ b b', c.board = some b ∧ after.board = some b' ∧ R b b'

variable {R : Board → Board → Prop} {c after : Canvas} {m : Moment} {env : Surroundings}
  {v : Visual}

lemma Boards.refl (h : ∀ b, R b b) (c : Canvas) : Boards R c c := by
  cases hb : c.board with
  | none => exact Or.inl ⟨hb, hb⟩
  | some b => exact Or.inr ⟨b, b, hb, hb, h b⟩

lemma Boards.exists_before (h : Boards R c after) {b' : Board} (hb' : after.board = some b') :
    ∃ b, c.board = some b ∧ R b b' := by
  obtain ⟨-, hnone⟩ | ⟨b, next, hb, hnext, hR⟩ := h
  · exact nomatch hnone.symm.trans hb'
  · obtain rfl := Option.some.inj (hb'.symm.trans hnext)
    exact ⟨b, hb, hR⟩

lemma boards_changeBoard {change : Board → Board} (h : ∀ b, R b (change b)) :
    Boards R c (c.changeBoard change) := by
  rw [Boards, changeBoard]
  cases c.board with
  | none => exact Or.inl ⟨rfl, rfl⟩
  | some b => exact Or.inr ⟨b, change b, rfl, rfl, h b⟩

lemma boards_changeAt {change : Board → Float → Float → Board} {x y : Float}
    (hon : ∀ b px py, env.onCanvas? x y = some (px, py) → R b (change b px py))
    (hoff : env.onCanvas? x y = none → ∀ b, R b b) :
    Boards R c (c.changeAt env x y change) := by
  rw [changeAt]
  cases hpoint : env.onCanvas? x y with
  | none => exact Boards.refl (hoff hpoint) c
  | some point => exact boards_changeBoard fun b => hon b _ _ hpoint

lemma Boards.imp {S : Board → Board → Prop} (h : Boards R c after) (hRS : ∀ b b', R b b' → S b b') :
    Boards S c after :=
  h.imp_right fun ⟨b, b', hb, hb', hR⟩ => ⟨b, b', hb, hb', hRS b b' hR⟩

/-- Frames let time pass and do nothing else to a board. -/
def Animates (b b' : Board) : Prop := ∃ scene, b' = { b with scene } ∧ b.scene.Elapses scene

lemma boards_frame {effects : List Effect} (h : c.frame env v = .ok (after, effects)) :
    Boards Animates c after := by
  have hstill : ∀ b : Board, Animates b b := fun b => ⟨b.scene, rfl, .refl⟩
  rw [frame] at h
  split at h
  · cases h
    exact Boards.refl hstill c
  · split at h
    · case _ hnone =>
        cases h
        exact Or.inl ⟨hnone, hnone⟩
    · case _ b hb =>
        split at h
        · cases h
        · case _ b' draws hframe =>
            cases h
            refine Or.inr ⟨b, b', hb, rfl, ?_⟩
            rw [boardFrame] at hframe
            split at hframe
            · split at hframe
              · cases hframe
              · case _ scene hscene =>
                  cases hframe
                  exact ⟨scene, rfl, .single ⟨_, hscene⟩⟩
            · cases hframe
              exact hstill b

lemma Animates.trans {b₁ b₂ b₃ : Board} (h : Animates b₁ b₂) (h' : Animates b₂ b₃) :
    Animates b₁ b₃ := by
  obtain ⟨scene, rfl, hscene⟩ := h
  obtain ⟨scene', rfl, hscene'⟩ := h'
  exact ⟨scene', rfl, hscene.trans hscene'⟩

lemma Boards.trans {next : Canvas} (hR : ∀ {b₁ b₂ b₃}, R b₁ b₂ → R b₂ b₃ → R b₁ b₃)
    (h : Boards R c next) (h' : Boards R next after) : Boards R c after := by
  obtain ⟨hnext, hafter⟩ | ⟨b₂, b₃, hb₂, hb₃, h₂₃⟩ := h'
  · obtain ⟨hc, -⟩ | ⟨b₁, b₂, -, hb₂, -⟩ := h
    · exact Or.inl ⟨hc, hafter⟩
    · exact nomatch hnext.symm.trans hb₂
  · obtain ⟨b₁, hb₁, h₁₂⟩ := h.exists_before hb₂
    exact Or.inr ⟨b₁, b₃, hb₁, hb₃, hR h₁₂ h₂₃⟩

lemma boards_frames {effects : List Effect} {n : Nat}
    (h : frames env v n c = .ok (after, effects)) : Boards Animates c after := by
  induction n generalizing c effects with
  | zero =>
      cases h
      exact Boards.refl (fun b => ⟨b.scene, rfl, .refl⟩) _
  | succ n ih =>
      obtain ⟨next, _, hframe, _, hframes⟩ := frames_succ_eq_ok h
      exact (boards_frame hframe).trans Animates.trans (ih hframes)

/-- A moment does one of the things to a board that it can do. -/
lemma steps_take (h : c.take m.env m.visual m.event = .ok after) :
    Boards (Board.Step m) c after := by
  obtain ⟨env, visual, event⟩ := m
  have hother {e : PageEvent} (he : ∀ x y, e ≠ .gesture (.move x y)) (b : Board) :
      Board.Step ⟨env, visual, e⟩ b b := by
    refine .rest ?_
    rintro ⟨_, x, y, hmove, _⟩
    exact he x y hmove
  cases event with
  | gesture g =>
      cases h
      cases g with
      | press x y =>
          exact boards_changeAt (fun b px py hpoint => .press ⟨x, y, rfl, hpoint⟩)
            fun _ => hother (by simp)
      | move x y =>
          refine boards_changeAt (fun b px py hpoint => .move ⟨x, y, rfl, hpoint⟩)
            fun hpoint b => .rest ?_
          rintro ⟨point, x', y', hmove, hon⟩
          cases hmove
          cases hpoint.symm.trans hon
      | release => exact boards_changeBoard fun b => .release rfl
      | leave => exact boards_changeBoard fun b => .leave rfl
      | wheel x y delta =>
          exact boards_changeAt (fun b px py _ => .zoom ⟨x, y, delta, rfl⟩)
            fun _ => hother (by simp)
  | frames n =>
      rw [take] at h
      cases hframes : frames env visual n c with
      | error f =>
          rw [hframes] at h
          cases h
      | ok next =>
          rw [hframes] at h
          cases h
          refine (boards_frames hframes).imp fun b b' hb => ?_
          obtain ⟨scene, rfl, hscene⟩ := hb
          exact .frames rfl hscene
  | windowResized =>
      cases h
      rw [windowResized]
      split
      · split
        · exact boards_changeBoard fun b => .resize rfl _ _
        · exact Boards.refl (hother (by simp)) c
      · exact Boards.refl (hother (by simp)) c
  | click _ | slide _ | pick _ | elsewhere =>
      cases h
      exact Boards.refl (hother (by simp)) c

end Canvas

/-! ### What a moment may touch -/

/-- What may be different on a board after a moment. -/
structure Board.Touched (m : Moment) (b b' : Board) : Prop where
  /-- The plane is moved by the wheel, or by the pointer while it is held and no particle is. -/
  transform : b'.scene.transform ≠ b.scene.transform →
    m.Wheels ∨ m.Moves ∧ b.pan.isSome ∧ b.drag = none
  /-- It is scaled by the wheel. -/
  zoom : b'.scene.transform.k ≠ b.scene.transform.k → m.Wheels
  /-- Apart from time, only the pointer moves a particle, and only the one that is dragged. -/
  spots : (∀ n, m.event ≠ .frames n) → ∀ i : Nat, b'.scene.spots[i]? ≠ b.scene.spots[i]? →
    m.Moves ∧ ∃ g, b.drag = some g ∧ g.node = i
  /-- A particle is anchored by the pointer while it is dragged, and is never let go. -/
  anchors : ∀ i : Nat, b'.scene.anchors[i]? = some true ↔ b.scene.anchors[i]? = some true ∨
    i < b.scene.anchors.length ∧ m.Moves ∧ ∃ g, b.drag = some g ∧ g.node = i
  /-- No particle comes or goes. -/
  count : b'.scene.anchors.length = b.scene.anchors.length
  /-- While a particle is dragged, the pointer leaves the focus where it is. -/
  focus : (∃ x y, m.event = .gesture (.move x y)) → b.drag.isSome →
    b'.scene.hover.node = b.scene.hover.node ∧
      b'.scene.hover.neighbours = b.scene.hover.neighbours

namespace Board

variable {m : Moment} {b b' : Board}

/-- Nothing has been touched. -/
lemma touched_refl (h : ¬ m.Moves) (b : Board) : b.Touched m b where
  transform htransform := absurd rfl htransform
  zoom hzoom := absurd rfl hzoom
  spots _ _ hi := absurd rfl hi
  anchors _ := ⟨Or.inl, fun hi => hi.resolve_right fun h' => h h'.2.1⟩
  count := rfl
  focus _ _ := ⟨rfl, rfl⟩

/-- Unless the pointer moves, nobody owns the anchors. -/
lemma touched_of_keeps (h : ∀ x y, m.event ≠ .gesture (.move x y))
    (htransform : b'.scene.transform = b.scene.transform ∨ m.Wheels)
    (hspots : (∀ n, m.event ≠ .frames n) → b'.scene.spots = b.scene.spots)
    (hanchors : b'.scene.anchors = b.scene.anchors) : b.Touched m b' where
  transform hne := Or.inl (htransform.resolve_left hne)
  zoom hne := htransform.resolve_left fun heq => hne (congrArg Transform.k heq)
  spots hframes i hi := absurd (by rw [hspots hframes]) hi
  anchors i := by
    rw [hanchors]
    exact ⟨Or.inl, fun hi => hi.resolve_right fun ⟨_, ⟨_, x, y, hmove, _⟩, _⟩ => h x y hmove⟩
  count := by rw [hanchors]
  focus := fun ⟨x, y, hmove⟩ => absurd hmove (h x y)

/-! #### Moves -/

lemma anchors_follow (s : Scene) (g : Drag) (x y : Float) :
    (follow s g x y).anchors = s.anchors.set g.node true := by
  rw [follow]
  exact Scene.anchors_changeBody fun _ => rfl

lemma exists_spots_follow (s : Scene) (g : Drag) (x y : Float) :
    ∃ spot, (follow s g x y).spots = s.spots.set g.node spot := by
  rw [follow]
  exact ⟨(g.nodeX + Precision.narrow ((x - g.startX) / s.transform.k),
    g.nodeY + Precision.narrow ((y - g.startY) / s.transform.k)),
    Scene.spots_changeBody fun _ => rfl⟩

/-- A dragged particle follows the pointer, which is noted; the focus stays where it is. -/
lemma exists_move_of_drag {g : Drag} (h : b.drag = some g) (v : Visual) (x y : Float) :
    ∃ pointer, b.move v x y = { b with
      scene := follow { b.scene with hover := { b.scene.hover with pointer } } g x y } := by
  rw [move, h]
  exact ⟨_, rfl⟩

/-- Without a drag the pointer moves the focus, and the plane if it is held. -/
lemma exists_move_of_none (h : b.drag = none) (v : Visual) (x y : Float) :
    ∃ hover transform, b.move v x y = { b with scene := { b.scene with hover, transform } } ∧
      transform.k = b.scene.transform.k ∧ (b.pan = none → transform = b.scene.transform) := by
  rw [move, h]
  dsimp only
  obtain ⟨hover, hset⟩ := Scene.exists_setHover
    { b.scene with hover := { b.scene.hover with pointer := (x, y) } }
    (Scene.particleAt { b.scene with hover := { b.scene.hover with pointer := (x, y) } } x y
      v.showsNode)
  rw [hset]
  cases hpan : b.pan with
  | none => exact ⟨hover, b.scene.transform, rfl, rfl, fun _ => rfl⟩
  | some p => exact ⟨hover, _, rfl, rfl, fun hnone => absurd hnone (Option.some_ne_none p)⟩

lemma touched_move_of_none {v : Visual} {x y : Float} (hmoves : m.Moves) (h : b.drag = none) :
    b.Touched m (b.move v x y) := by
  obtain ⟨hover, transform, hmove, hk, hstill⟩ := exists_move_of_none h v x y
  rw [hmove]
  exact {
    transform := fun htransform => by
      refine Or.inr ⟨hmoves, ?_, h⟩
      cases hpan : b.pan with
      | none => exact absurd (hstill hpan) htransform
      | some p => rfl
    zoom := fun hzoom => absurd hk hzoom
    spots := fun _ i hi => absurd rfl hi
    anchors := fun i => ⟨Or.inl, fun hi => hi.resolve_right fun ⟨_, _, g, hg, _⟩ =>
      nomatch h.symm.trans hg⟩
    count := rfl
    focus := fun _ hsome => nomatch h ▸ hsome }

lemma touched_move_of_drag {v : Visual} {x y : Float} {g : Drag} (hmoves : m.Moves)
    (h : b.drag = some g) : b.Touched m (b.move v x y) := by
  obtain ⟨pointer, hmove⟩ := exists_move_of_drag h v x y
  obtain ⟨spot, hspots⟩ := exists_spots_follow
    { b.scene with hover := { b.scene.hover with pointer } } g x y
  have hanchors : (follow { b.scene with hover := { b.scene.hover with pointer } } g x y).anchors
      = b.scene.anchors.set g.node true := anchors_follow _ g x y
  rw [hmove]
  exact {
    transform := fun htransform => absurd rfl htransform
    zoom := fun hzoom => absurd rfl hzoom
    spots := fun _ i hi => by
      refine ⟨hmoves, g, h, ?_⟩
      by_cases hnode : g.node = i
      · exact hnode
      · rw [hspots, List.getElem?_set_ne hnode] at hi
        exact absurd rfl hi
    anchors := fun i => by
      rw [hanchors, List.getElem?_set]
      by_cases hnode : g.node = i
      · subst hnode
        rw [if_pos rfl]
        by_cases hi : g.node < b.scene.anchors.length
        · rw [if_pos hi]
          exact iff_of_true rfl (Or.inr ⟨hi, hmoves, g, h, rfl⟩)
        · rw [if_neg hi, List.getElem?_eq_none (Nat.le_of_not_lt hi)]
          exact ⟨nofun, fun h => h.elim nofun fun h => absurd h.1 hi⟩
      · rw [if_neg hnode]
        refine ⟨Or.inl, fun hi => hi.resolve_right fun ⟨_, _, g', hg', hnode'⟩ => hnode ?_⟩
        rwa [Option.some.inj (h.symm.trans hg')]
    count := by
      rw [hanchors, List.length_set]
    focus := fun _ _ => ⟨rfl, rfl⟩ }

/-- A moment touches only what it owns. -/
lemma Step.touched (h : b.Step m b') : b.Touched m b' := by
  have hmove {x : PageEvent} (hx : m.event = x) (hne : ∀ px py, x ≠ .gesture (.move px py)) :
      ∀ px py, m.event ≠ .gesture (.move px py) := hx ▸ hne
  cases h with
  | rest h => exact touched_refl h b
  | @move x y h =>
      cases hdrag : b.drag with
      | none => exact touched_move_of_none ⟨_, h⟩ hdrag
      | some g => exact touched_move_of_drag ⟨_, h⟩ hdrag
  | press h =>
      obtain ⟨x, y, hx, -⟩ := h
      exact touched_of_keeps (hmove hx nofun) (.inl (by rw [scene_press]))
        (fun _ => by rw [scene_press]) (by rw [scene_press])
  | release h => exact touched_of_keeps (hmove h nofun) (.inl rfl) (fun _ => rfl) rfl
  | leave h =>
      obtain ⟨hover, hset⟩ := b.scene.exists_setHover none
      have hscene : b.leave.scene = { b.scene with hover } := hset
      exact touched_of_keeps (hmove h nofun) (.inl (by rw [hscene])) (fun _ => by rw [hscene]; rfl)
        (by rw [hscene]; rfl)
  | zoom h =>
      obtain ⟨x, y, delta, hx⟩ := h
      exact touched_of_keeps (hmove hx nofun) (.inr ⟨x, y, delta, hx⟩) (fun _ => rfl) rfl
  | @frames n _ h hscene =>
      exact touched_of_keeps (hmove h nofun) (.inl hscene.keeps.1)
        (fun hframes => absurd h (hframes n)) hscene.keeps.2
  | resize h _ _ => exact touched_of_keeps (hmove h nofun) (.inl rfl) (fun _ => rfl) rfl

end Board

namespace Canvas

/-- What may be different on a canvas after a moment. -/
structure Touches (m : Moment) (c after : Canvas) : Prop where
  /-- Nothing is, if the position of the pointer is not available. -/
  outOfReach : m.OutOfReach → after = c
  /-- A window of a new size changes the size of the scene and nothing else. -/
  resize : m.event = .windowResized → after = c ∨ ∃ width height, after =
    c.changeBoard fun b => { b with scene := b.scene.resize width height }
  boards : Boards (Board.Touched m) c after

variable {c after : Canvas} {m : Moment}

lemma changeAt_of_none {env : Surroundings} {x y : Float} (h : env.onCanvas? x y = none)
    (change : Board → Float → Float → Board) : c.changeAt env x y change = c := by
  rw [changeAt, h]

lemma touches_take (h : c.take m.env m.visual m.event = .ok after) : Touches m c after where
  outOfReach := by
    rintro ⟨x, y, hpoint, hpress | hmove | ⟨delta, hwheel⟩⟩
    · rw [hpress] at h
      cases h
      exact changeAt_of_none hpoint _
    · rw [hmove] at h
      cases h
      exact changeAt_of_none hpoint _
    · rw [hwheel] at h
      cases h
      exact changeAt_of_none hpoint _
  resize hevent := by
    rw [hevent] at h
    cases h
    rw [windowResized]
    split
    · split
      · exact Or.inr ⟨_, _, rfl⟩
      · exact Or.inl rfl
    · exact Or.inl rfl
  boards := (steps_take h).imp fun _ _ hstep => hstep.touched

end Canvas

end Retrace
