import Retrace.Proofs.Canvas.Pointing
import Retrace.Proofs.Page.Sync

/-!
A drag as a switch beside its data.

A board holds a drag as long as one is under way.  A program may as well keep a switch that is on
meanwhile, and beside it the particle that is dragged and where everything was when the drag began,
which stay behind when the switch goes off.  Such a switch is on exactly while there is a particle
beside it, and then both ways to keep track of a drag come to the same.

* `Switchboard`, `SwitchedCanvas`: boards and canvases with switches, and what happens to them;
* `SwitchedCanvas.Agrees`: the switches of the drags agree with their particles;
* `SwitchedCanvas.toCanvas`: the canvas without switches;
* `SwitchedCanvas.exists_take`: one event; `Moment`, `Canvas.run`, `SwitchedCanvas.exists_run`:
  events one after the other.
-/

namespace Retrace

/-- Whether something is dragged, what is, and where it and the pointer were at the beginning. -/
structure DragSwitch where
  active : Bool
  node : Option Nat
  startX : Float
  startY : Float
  nodeX : Float32
  nodeY : Float32

/-- Whether the plane is moved, and where it and the pointer were at the beginning. -/
structure PanSwitch where
  active : Bool
  startX : Float
  startY : Float
  planeX : Float
  planeY : Float

/-- The drag of a particle, if the switch is on. -/
def DragSwitch.dragOf (d : DragSwitch) (i : Nat) : Drag := ⟨i, d.startX, d.startY, d.nodeX, d.nodeY⟩

/-- The move of the plane, if the switch is on. -/
def PanSwitch.toPan (p : PanSwitch) : Pan := ⟨p.startX, p.startY, p.planeX, p.planeY⟩

/-- A scene with the switches for gestures. -/
structure Switchboard where
  scene : Scene
  drag : DragSwitch
  pan : PanSwitch

namespace Switchboard

/-- A scene that nothing is done to. -/
def ofScene (s : Scene) : Switchboard := ⟨s, ⟨false, none, 0, 0, 0, 0⟩, ⟨false, 0, 0, 0, 0⟩⟩

/-- The pointer is pressed. -/
def press (b : Switchboard) (v : Visual) (x y : Float) : Switchboard :=
  match b.scene.particleAt x y v.showsNode with
  | some i =>
    let drag := { b.drag with active := true, node := some i, startX := x, startY := y }
    match b.scene.particles[i]? with
    | some p => { b with drag := { drag with nodeX := p.body.x, nodeY := p.body.y } }
    | none => { b with drag }
  | none => { b with pan := ⟨true, x, y, b.scene.transform.x, b.scene.transform.y⟩ }

/-- The pointer moves: the focus is set anew while the drag is off; then the dragged particle
follows, or the plane while the drag is off and the move of the plane is on. -/
def move (b : Switchboard) (v : Visual) (x y : Float) : Switchboard :=
  let s := { b.scene with hover := { b.scene.hover with pointer := (x, y) } }
  let s := if b.drag.active then s else s.setHover (s.particleAt x y v.showsNode)
  if b.drag.active then
    match b.drag.node with
    | some i => { b with scene := Board.follow s (b.drag.dragOf i) x y }
    | none => { b with scene := s }
  else if b.pan.active then { b with scene := Board.slide s b.pan.toPan x y }
  else { b with scene := s }

/-- The pointer is released; what the switches stood for stays behind, except for the particle. -/
def release (b : Switchboard) : Switchboard :=
  { b with drag := { b.drag with active := false, node := none }
           pan := { b.pan with active := false } }

/-- The pointer leaves the canvas. -/
def leave (b : Switchboard) : Switchboard :=
  { b.release with scene := b.scene.setHover none }

/-- The wheel turns, which no switch has a part in. -/
def zoom (b : Switchboard) (x y delta : Float) : Switchboard :=
  { b with scene := ((Board.ofScene b.scene).zoom x y delta).scene }

/-- The board without switches: there is a drag as long as the switch is on. -/
def toBoard (b : Switchboard) : Board where
  scene := b.scene
  drag := if b.drag.active then b.drag.node.map b.drag.dragOf else none
  pan := if b.pan.active then some b.pan.toPan else none

/-- The drag is on exactly if there is a particle that is dragged. -/
def Agrees (b : Switchboard) : Prop := b.drag.active = true ↔ b.drag.node.isSome

variable {b : Switchboard}

/-- A drag that agrees with its particle is either off or drags it. -/
lemma Agrees.cases (h : b.Agrees) :
    (b.drag.active = false ∧ b.drag.node = none) ∨
      ∃ i, b.drag.active = true ∧ b.drag.node = some i := by
  rw [Agrees] at h
  cases hnode : b.drag.node with
  | none => exact Or.inl ⟨by simpa [hnode] using h, rfl⟩
  | some i => exact Or.inr ⟨i, h.mpr (by rw [hnode]; rfl), rfl⟩

/-- What a press finds is there. -/
lemma exists_particle {v : Visual} {x y : Float} {i : Nat}
    (h : b.scene.particleAt x y v.showsNode = some i) : ∃ p, b.scene.particles[i]? = some p := by
  obtain ⟨p, hp, -⟩ := (Scene.particleAt_eq_some_iff.mp h).1
  exact ⟨p, hp⟩

lemma toBoard_press (v : Visual) (x y : Float) :
    (b.press v x y).toBoard = b.toBoard.press v x y := by
  rw [press, Board.press, Board.shownAt, show b.toBoard.scene = b.scene from rfl]
  cases hat : b.scene.particleAt x y v.showsNode with
  | none => rfl
  | some i =>
      obtain ⟨p, hp⟩ := exists_particle hat
      simp only [hp]
      rfl

lemma Agrees.press (h : b.Agrees) (v : Visual) (x y : Float) : (b.press v x y).Agrees := by
  rw [Switchboard.press]
  split
  · dsimp only
    split <;> exact iff_of_true rfl rfl
  · exact h

lemma toBoard_move (h : b.Agrees) (v : Visual) (x y : Float) :
    (b.move v x y).toBoard = b.toBoard.move v x y := by
  obtain ⟨hoff, hnone⟩ | ⟨i, hon, hsome⟩ := h.cases
  · cases hpan : b.pan.active <;> simp [move, Board.move, toBoard, hoff, hpan]
  · simp [move, Board.move, toBoard, hon, hsome]

lemma Agrees.move (h : b.Agrees) (v : Visual) (x y : Float) : (b.move v x y).Agrees := by
  rw [Switchboard.move]
  dsimp only
  repeat' split
  all_goals exact h

lemma Agrees.zoom (h : b.Agrees) (x y delta : Float) : (b.zoom x y delta).Agrees := h

lemma agrees_release (b : Switchboard) : b.release.Agrees :=
  iff_of_false Bool.false_ne_true Bool.false_ne_true

end Switchboard

/-! ### Canvases -/

/-- A canvas with switches for gestures. -/
structure SwitchedCanvas where
  board : Option Switchboard
  framePending : Bool
  followsWindow : Bool

namespace SwitchedCanvas

/-- A canvas whose switches are all off. -/
def fresh (c : Canvas) : SwitchedCanvas :=
  ⟨c.board.map fun b => .ofScene b.scene, c.framePending, c.followsWindow⟩

/-- Changes the board, if there is one. -/
def changeBoard (c : SwitchedCanvas) (change : Switchboard → Switchboard) : SwitchedCanvas :=
  { c with board := c.board.map change }

/-- Changes the board by a gesture at a point of the window, if that lies on the canvas. -/
def changeAt (c : SwitchedCanvas) (env : Surroundings) (x y : Float)
    (change : Switchboard → Float → Float → Switchboard) : SwitchedCanvas :=
  match env.onCanvas? x y with
  | some (x, y) => c.changeBoard fun b => change b x y
  | none => c

/-- A gesture. -/
def handle (c : SwitchedCanvas) (env : Surroundings) (v : Visual) : Gesture → SwitchedCanvas
  | .press x y => c.changeAt env x y fun b => b.press v
  | .move x y => c.changeAt env x y fun b => b.move v
  | .release => c.changeBoard Switchboard.release
  | .leave => c.changeBoard Switchboard.leave
  | .wheel x y delta => c.changeAt env x y fun b x y => b.zoom x y delta

/-- One frame, if it has been asked for. -/
def frame (c : SwitchedCanvas) (env : Surroundings) : Except SimulationFault SwitchedCanvas :=
  if !c.framePending then .ok c
  else
    match c.board with
    | none => .ok { c with framePending := env.window }
    | some b =>
      match if b.scene.running then b.scene.tick Canvas.frameTime else .ok b.scene with
      | .error f => .error f
      | .ok scene => .ok { c with board := some { b with scene }, framePending := env.window }

/-- Several frames. -/
def frames (env : Surroundings) : Nat → SwitchedCanvas → Except SimulationFault SwitchedCanvas
  | 0, c => .ok c
  | n + 1, c =>
    match c.frame env with
    | .error f => .error f
    | .ok c => frames env n c

/-- The window has a new size. -/
def windowResized (c : SwitchedCanvas) (env : Surroundings) : SwitchedCanvas :=
  if c.followsWindow && env.window then
    match env.windowSize? with
    | some (width, height) => c.changeBoard fun b => { b with scene := b.scene.resize width height }
    | none => c
  else c

/-- What an event does to the canvas. -/
def take (c : SwitchedCanvas) (env : Surroundings) (v : Visual) :
    PageEvent → Except SimulationFault SwitchedCanvas
  | .gesture g => .ok (c.handle env v g)
  | .frames n => frames env n c
  | .windowResized => .ok (c.windowResized env)
  | .click _ | .slide _ | .pick _ | .elsewhere => .ok c

/-- The canvas without switches. -/
def toCanvas (c : SwitchedCanvas) : Canvas :=
  ⟨c.board.map Switchboard.toBoard, c.framePending, c.followsWindow⟩

/-- The drag of the canvas agrees with its particle. -/
def Agrees (c : SwitchedCanvas) : Prop := ∀ b, c.board = some b → b.Agrees

variable {c : SwitchedCanvas} {env : Surroundings} {v : Visual}

lemma agrees_fresh (c : Canvas) : (fresh c).Agrees := by
  intro b hb
  obtain ⟨old, -, rfl⟩ := Option.map_eq_some_iff.mp hb
  exact iff_of_false Bool.false_ne_true Bool.false_ne_true

/-! ### Gestures -/

lemma toCanvas_changeBoard {change : Switchboard → Switchboard} {plain : Board → Board}
    (h : ∀ b, c.board = some b → (change b).toBoard = plain b.toBoard) :
    (c.changeBoard change).toCanvas = c.toCanvas.changeBoard plain := by
  rw [changeBoard, toCanvas, toCanvas, Canvas.changeBoard]
  cases hb : c.board with
  | none => rfl
  | some b => simp [h b hb]

lemma Agrees.changeBoard {change : Switchboard → Switchboard} (h : c.Agrees)
    (hchange : ∀ b, b.Agrees → (change b).Agrees) : (c.changeBoard change).Agrees := by
  intro b hb
  obtain ⟨old, hold, rfl⟩ := Option.map_eq_some_iff.mp hb
  exact hchange old (h old hold)

lemma toCanvas_changeAt {change : Switchboard → Float → Float → Switchboard}
    {plain : Board → Float → Float → Board}
    (h : ∀ b, c.board = some b → ∀ x y, (change b x y).toBoard = plain b.toBoard x y)
    (x y : Float) : (c.changeAt env x y change).toCanvas = c.toCanvas.changeAt env x y plain := by
  rw [changeAt, Canvas.changeAt]
  cases env.onCanvas? x y with
  | none => rfl
  | some point => exact toCanvas_changeBoard fun b hb => h b hb _ _

lemma Agrees.changeAt {change : Switchboard → Float → Float → Switchboard} (h : c.Agrees)
    (hchange : ∀ b x y, b.Agrees → (change b x y).Agrees) (x y : Float) :
    (c.changeAt env x y change).Agrees := by
  rw [SwitchedCanvas.changeAt]
  split
  · exact h.changeBoard fun b => hchange b _ _
  · exact h

lemma toCanvas_handle (h : c.Agrees) (g : Gesture) :
    (c.handle env v g).toCanvas = (c.toCanvas.handle env v g).1 := by
  cases g with
  | press x y => exact toCanvas_changeAt (fun b _ x y => b.toBoard_press v x y) x y
  | move x y => exact toCanvas_changeAt (fun b hb x y => b.toBoard_move (h b hb) v x y) x y
  | release => exact toCanvas_changeBoard fun _ _ => rfl
  | leave => exact toCanvas_changeBoard fun _ _ => rfl
  | wheel x y delta => exact toCanvas_changeAt (fun _ _ _ _ => rfl) x y

lemma Agrees.handle (h : c.Agrees) (g : Gesture) : (c.handle env v g).Agrees := by
  cases g with
  | press x y => exact h.changeAt (fun _ x y hb => hb.press v x y) x y
  | move x y => exact h.changeAt (fun _ x y hb => hb.move v x y) x y
  | release => exact h.changeBoard fun b _ => b.agrees_release
  | leave => exact h.changeBoard fun b _ => b.agrees_release
  | wheel x y delta => exact h.changeAt (fun _ x y hb => hb.zoom x y delta) x y

/-! ### Frames and sizes -/

lemma exists_frame {after : Canvas} {effects : List Effect} (h : c.Agrees)
    (hafter : c.toCanvas.frame env v = .ok (after, effects)) :
    ∃ s, c.frame env = .ok s ∧ s.toCanvas = after ∧ s.Agrees := by
  obtain ⟨board, framePending, followsWindow⟩ := c
  cases framePending with
  | false =>
      cases hafter
      exact ⟨_, rfl, rfl, h⟩
  | true =>
      cases board with
      | none =>
          cases hafter
          exact ⟨_, rfl, rfl, fun b hb => h b hb⟩
      | some b =>
          -- a frame changes the scene only, so the switches agree as they did
          have hkept (scene : Scene) :
              Agrees ⟨some { b with scene }, env.window, followsWindow⟩ := by
            rintro _ ⟨⟩
            exact h b rfl
          simp only [Canvas.frame, toCanvas, Bool.not_true, Bool.false_eq_true, if_false,
            Option.map_some, Canvas.boardFrame, show b.toBoard.scene = b.scene from rfl] at hafter
          simp only [frame, Bool.not_true, Bool.false_eq_true, if_false]
          cases hrunning : b.scene.running with
          | false =>
              rw [hrunning] at hafter
              cases hafter
              exact ⟨_, rfl, rfl, hkept b.scene⟩
          | true =>
              rw [hrunning] at hafter
              simp only [if_true] at hafter ⊢
              cases htick : b.scene.tick Canvas.frameTime with
              | error f =>
                  rw [htick] at hafter
                  cases hafter
              | ok scene =>
                  rw [htick] at hafter
                  cases hafter
                  exact ⟨_, rfl, rfl, hkept scene⟩

lemma exists_frames {after : Canvas} {effects : List Effect} {n : Nat} (h : c.Agrees)
    (hafter : Canvas.frames env v n c.toCanvas = .ok (after, effects)) :
    ∃ s, frames env n c = .ok s ∧ s.toCanvas = after ∧ s.Agrees := by
  induction n generalizing c effects with
  | zero =>
      cases hafter
      exact ⟨c, rfl, rfl, h⟩
  | succ n ih =>
      obtain ⟨next, _, hframe, _, hframes⟩ := Canvas.frames_succ_eq_ok hafter
      obtain ⟨s, hs, rfl, hagrees⟩ := exists_frame h hframe
      rw [frames, hs]
      exact ih hagrees hframes

lemma toCanvas_windowResized :
    (c.windowResized env).toCanvas = (c.toCanvas.windowResized env).1 := by
  rw [windowResized, Canvas.windowResized, show c.toCanvas.followsWindow = c.followsWindow from rfl]
  split
  · cases env.windowSize? with
    | none => rfl
    | some size => exact toCanvas_changeBoard fun _ _ => rfl
  · rfl

lemma Agrees.windowResized (h : c.Agrees) : (c.windowResized env).Agrees := by
  rw [SwitchedCanvas.windowResized]
  split
  · split
    · exact h.changeBoard fun _ hb => hb
    · exact h
  · exact h

/-! ### Events -/

/-- An event that the canvas takes is taken in the same way with switches, and they go on to
agree. -/
lemma exists_take {after : Canvas} {x : PageEvent} (h : c.Agrees)
    (hafter : c.toCanvas.take env v x = .ok after) :
    ∃ s, c.take env v x = .ok s ∧ s.toCanvas = after ∧ s.Agrees := by
  cases x with
  | gesture g =>
      cases hafter
      exact ⟨_, rfl, toCanvas_handle h g, h.handle g⟩
  | frames n =>
      rw [Canvas.take] at hafter
      cases hframes : Canvas.frames env v n c.toCanvas with
      | error f =>
          rw [hframes] at hafter
          cases hafter
      | ok next =>
          rw [hframes] at hafter
          cases hafter
          exact exists_frames h hframes
  | windowResized =>
      cases hafter
      exact ⟨_, rfl, toCanvas_windowResized, h.windowResized⟩
  | click _ | slide _ | pick _ | elsewhere =>
      cases hafter
      exact ⟨c, rfl, rfl, h⟩

end SwitchedCanvas

/-! ### Events one after the other -/

/-- What happens on a page that shows a canvas: an event, with what the canvas finds around it and
the picture that it is to draw. -/
structure Moment where
  env : Surroundings
  visual : Visual
  event : PageEvent

/-- What some moments do to a canvas. -/
def Canvas.run (c : Canvas) (moments : List Moment) : Except SimulationFault Canvas :=
  moments.foldlM (fun c m => c.take m.env m.visual m.event) c

namespace SwitchedCanvas

/-- What some moments do to a canvas with switches. -/
def run (c : SwitchedCanvas) (moments : List Moment) : Except SimulationFault SwitchedCanvas :=
  moments.foldlM (fun c m => c.take m.env m.visual m.event) c

/-- Whatever happens, the switches keep track of it and agree. -/
lemma exists_run {c : SwitchedCanvas} {after : Canvas} {moments : List Moment} (h : c.Agrees)
    (hafter : c.toCanvas.run moments = .ok after) :
    ∃ s, c.run moments = .ok s ∧ s.toCanvas = after ∧ s.Agrees := by
  induction moments generalizing c with
  | nil =>
      cases hafter
      exact ⟨c, rfl, rfl, h⟩
  | cons m more ih =>
      rw [Canvas.run, List.foldlM_cons] at hafter
      cases htake : c.toCanvas.take m.env m.visual m.event with
      | error f =>
          rw [htake] at hafter
          cases hafter
      | ok next =>
          rw [htake] at hafter
          obtain ⟨s, hs, rfl, hagrees⟩ := exists_take h htake
          rw [run, List.foldlM_cons, hs]
          exact ih hagrees hafter

/-- A canvas that has just been mounted has all of its switches off. -/
lemma toCanvas_fresh (options : CanvasOptions) (env : Surroundings) (d : Dataset) :
    (fresh (Canvas.mount options env d).1).toCanvas = (Canvas.mount options env d).1 := by
  rw [Canvas.mount]
  split
  · dsimp only
    split <;> rfl
  · rfl

end SwitchedCanvas

end Retrace
