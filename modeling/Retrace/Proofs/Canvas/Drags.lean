import Retrace.Proofs.Page.Course

/-!
Where drags come from, and what they leave behind.

A drag goes on from the press that has found its particle.  The particles that have been carried
along are held from then on, and no others are.

* `Canvas.run_concat`, `Canvas.run_induction`: moments one after the other;
* `Canvas.Picks`, `Canvas.drag?_of_picks`: a press that begins a drag; `Canvas.DragBegan`,
  `Canvas.dragBegan_run`: the press behind a drag;
* `Canvas.Dragged`, `Canvas.anchored_run`: the moves behind the anchors;
* `Canvas.gestures_run`: a canvas after any moments.
-/

namespace Retrace

namespace Canvas

/-! ### Moments one after the other -/

variable {start c after : Canvas} {m : Moment} {done : List Moment}

lemma run_concat : start.run (done ++ [m]) = .ok after ↔
    ∃ c, start.run done = .ok c ∧ c.take m.env m.visual m.event = .ok after := by
  rw [run, List.foldlM_append, ← run]
  cases start.run done with
  | error f =>
      constructor
      · intro h
        cases h
      · rintro ⟨_, h, _⟩
        cases h
  | ok c =>
      have hlast : [m].foldlM (fun (c : Canvas) m => c.take m.env m.visual m.event) c
          = c.take m.env m.visual m.event := by
        rw [List.foldlM_cons]
        cases c.take m.env m.visual m.event <;> rfl
      constructor
      · exact fun h => ⟨c, rfl, hlast.symm.trans h⟩
      · rintro ⟨_, hc, h⟩
        cases hc
        exact hlast.trans h

/-- What holds of the canvas at first and is carried over each moment holds in the end. -/
lemma run_induction {I : List Moment → Canvas → Prop} (hstart : I [] start)
    (hstep : ∀ done m c after, start.run done = .ok c → I done c →
      c.take m.env m.visual m.event = .ok after → I (done ++ [m]) after)
    (h : start.run done = .ok c) : I done c := by
  induction done using List.reverseRecOn generalizing c with
  | nil =>
      cases h
      exact hstart
  | append_singleton done m ih =>
      obtain ⟨before, hbefore, htake⟩ := run_concat.mp h
      exact hstep done m before c hbefore (ih hbefore) htake

/-! ### Where a drag comes from -/

/-- The drag that is under way. -/
def drag? (c : Canvas) : Option Drag := c.board.bind (·.drag)

/-- The pointer is pressed at a point of the canvas where it finds a shown particle, and the drag of
this particle begins. -/
def Picks (c : Canvas) (m : Moment) (g : Drag) : Prop :=
  ∃ b p, c.board = some b ∧ m.At .press (g.startX, g.startY) ∧
    b.shownAt m.visual g.startX g.startY = some g.node ∧ b.scene.particles[g.node]? = some p ∧
    p.info.id ∈ m.visual.shownNodes ∧ p.body.x = g.nodeX ∧ p.body.y = g.nodeY

/-- The drag began at some moment with a press on a node of the dataset, which was shown then, and
has been under way ever since. -/
def DragBegan (start : Canvas) (d : Dataset) (done : List Moment) (g : Drag) : Prop :=
  ∃ before m after c n, done = before ++ m :: after ∧ start.run before = .ok c ∧ c.Picks m g ∧
    d.nodes[g.node]? = some n ∧ n.index ∈ m.visual.shownNodes ∧
    ∀ mid, mid <+: after → ∃ c', start.run (before ++ m :: mid) = .ok c' ∧ c'.drag? = some g

lemma drag_press {b : Board} {x y : Float} {v : Visual} {g : Drag}
    (hg : (b.press v x y).drag = some g) : b.drag = some g ∨ g.startX = x ∧ g.startY = y ∧
      b.shownAt v x y = some g.node ∧ ∃ p, b.scene.particles[g.node]? = some p ∧
        p.info.id ∈ v.shownNodes ∧ p.body.x = g.nodeX ∧ p.body.y = g.nodeY := by
  rw [Board.press] at hg
  split at hg
  · case _ i hi =>
      split at hg
      · case _ p hp =>
          cases hg
          obtain ⟨q, hq, hshown, -⟩ := (Scene.particleAt_eq_some_iff.mp hi).1
          obtain rfl := Option.some.inj (hp.symm.trans hq)
          exact Or.inr ⟨rfl, rfl, hi, p, hp, hshown, rfl, rfl⟩
      · exact Or.inl hg
  · exact Or.inl hg

/-- A press that finds a shown particle begins to drag it, whatever was dragged before. -/
lemma drag?_of_picks (h : c.take m.env m.visual m.event = .ok after) {g : Drag}
    (hg : c.Picks m g) : after.drag? = some g := by
  obtain ⟨b, p, hb, ⟨x, y, hpress, hpoint⟩, hat, hp, -, hx, hy⟩ := hg
  rw [hpress] at h
  cases h
  rw [handle, changeAt, hpoint]
  dsimp only
  rw [drag?, changeBoard, hb, Option.map_some, Option.bind_some, Board.press, hat]
  dsimp only
  rw [hp]
  dsimp only
  rw [hx, hy]

lemma drag_move (b : Board) (v : Visual) (x y : Float) : (b.move v x y).drag = b.drag := by
  cases hdrag : b.drag with
  | none =>
      obtain ⟨_, _, hmove, -⟩ := Board.exists_move_of_none hdrag v x y
      rw [hmove]
      exact hdrag
  | some g =>
      obtain ⟨_, hmove⟩ := Board.exists_move_of_drag hdrag v x y
      rw [hmove]
      exact hdrag

/-- A drag was under way before, or has just begun. -/
lemma drag?_take (h : c.take m.env m.visual m.event = .ok after) {g : Drag}
    (hg : after.drag? = some g) : c.drag? = some g ∨ c.Picks m g := by
  obtain ⟨b', hb', hg⟩ := Option.bind_eq_some_iff.mp hg
  obtain ⟨b, hb, hstep⟩ := (steps_take h).exists_before hb'
  have hkept (hdrag : b.drag = some g) : c.drag? = some g ∨ c.Picks m g :=
    Or.inl (Option.bind_eq_some_iff.mpr ⟨b, hb, hdrag⟩)
  cases hstep with
  | rest | zoom | frames | resize => exact hkept hg
  | move => exact hkept (by rwa [drag_move] at hg)
  | release | leave => cases hg
  | @press x y hpress =>
      obtain hdrag | ⟨rfl, rfl, hat, p, hp, hshown, hx, hy⟩ := drag_press hg
      · exact hkept hdrag
      · exact Or.inr ⟨b, p, hb, hpress, hat, hp, hshown, hx, hy⟩

/-! ### Which particles are held -/

/-- The particle was dragged at some moment that moved the pointer. -/
def Dragged (start : Canvas) (done : List Moment) (i : Nat) : Prop :=
  ∃ before m after c g, done = before ++ m :: after ∧ start.run before = .ok c ∧
    m.Moves ∧ c.drag? = some g ∧ g.node = i

lemma not_dragged_nil {i : Nat} : ¬ Dragged start [] i := by
  rintro ⟨before, m, after, _, _, hdone, -⟩
  simp at hdone

lemma dragged_concat (hc : start.run done = .ok c) {i : Nat} :
    Dragged start (done ++ [m]) i ↔
      Dragged start done i ∨ m.Moves ∧ ∃ g, c.drag? = some g ∧ g.node = i := by
  constructor
  · rintro ⟨before, m', after, c', g, hdone, hc', hmoves, hg, hnode⟩
    rcases List.eq_nil_or_concat' after with rfl | ⟨later, last, rfl⟩
    · obtain ⟨rfl, hm⟩ := List.append_inj' hdone rfl
      cases hm
      cases hc.symm.trans hc'
      exact Or.inr ⟨hmoves, g, hg, hnode⟩
    · rw [← List.cons_append, ← List.append_assoc] at hdone
      obtain ⟨rfl, -⟩ := List.append_inj' hdone rfl
      exact Or.inl ⟨before, m', later, c', g, rfl, hc', hmoves, hg, hnode⟩
  · rintro (⟨before, m', after, c', g, rfl, hc', hmoves, hg, hnode⟩ | ⟨hmoves, g, hg, hnode⟩)
    · exact ⟨before, m', after ++ [m], c', g, by simp, hc', hmoves, hg, hnode⟩
    · exact ⟨done, m, [], c, g, rfl, hc, hmoves, hg, hnode⟩

variable {options : CanvasOptions} {env : Surroundings} {d : Dataset}

/-- The scene of a canvas stands for its dataset all the time. -/
lemma standsFor_run (hc : (mount options env d).1.run done = .ok c) {b : Board}
    (hb : c.board = some b) : b.scene.StandsFor d := by
  have hcomes := run_induction (I := fun _ c => c.ComesFrom (.ofDataset d (sizeOn options env).1
    (sizeOn options env).2 options.showEdgeLabels)) (comesFrom_mount options env d)
    (fun _ _ _ _ _ h htake => h.take htake) hc
  exact (hcomes b hb).standsFor (Scene.standsFor_ofDataset d _ _ _)

lemma dragBegan_run (hc : (mount options env d).1.run done = .ok c) {g : Drag}
    (hg : c.drag? = some g) : DragBegan (mount options env d).1 d done g := by
  refine run_induction (I := fun done c => ∀ g, c.drag? = some g →
    DragBegan (mount options env d).1 d done g) ?_ ?_ hc g hg
  · intro g hg
    obtain ⟨b, hb, hdrag⟩ := Option.bind_eq_some_iff.mp hg
    rw [eq_of_board_mount hb] at hdrag
    cases hdrag
  · intro done m c after hc ih htake g hg
    have hafter := run_concat.mpr ⟨c, hc, htake⟩
    rcases drag?_take htake hg with hold | hpicks
    · obtain ⟨before, m', later, c', n, rfl, hc', hpicks, hn, hshown, hsince⟩ := ih g hold
      refine ⟨before, m', later ++ [m], c', n, by simp, hc', hpicks, hn, hshown, ?_⟩
      intro mid hmid
      -- the last moment is the only one that the drag has not been followed over yet
      rcases List.prefix_concat_iff.mp hmid with rfl | hmid
      · exact ⟨after, by simpa using hafter, hg⟩
      · exact hsince mid hmid
    · -- the press finds a particle of the scene, and this stands for a node of the dataset
      have ⟨b, p, hb, _, _, hp, hshown, _⟩ := hpicks
      obtain ⟨n, hn, hinfo⟩ := (standsFor_run hc hb).exists_node hp
      rw [hinfo] at hshown
      refine ⟨done, m, [], c, n, rfl, hc, hpicks, hn, hshown, fun mid hmid => ?_⟩
      obtain rfl := List.prefix_nil.mp hmid
      exact ⟨after, hafter, hg⟩

/-- Among the particles that there are, those that have been dragged are held. -/
lemma anchors_run (hc : (mount options env d).1.run done = .ok c) {b : Board}
    (hb : c.board = some b) {i : Nat} (hi : i < b.scene.anchors.length) :
    b.scene.anchors[i]? = some true ↔ Dragged (mount options env d).1 done i := by
  refine run_induction (I := fun done c => ∀ b, c.board = some b → i < b.scene.anchors.length →
    (b.scene.anchors[i]? = some true ↔ Dragged (mount options env d).1 done i)) ?_ ?_ hc b hb hi
  · intro b hb _
    rw [eq_of_board_mount hb]
    exact iff_of_false (fun h => Scene.not_mem_anchors_ofDataset _ _ _ _ (List.mem_of_getElem? h))
      not_dragged_nil
  · intro done m c after hc ih htake b' hb' hi
    obtain ⟨b, hb, htouched⟩ := (touches_take htake).boards.exists_before hb'
    rw [htouched.count] at hi
    have hdrag : c.drag? = b.drag := by rw [drag?, hb, Option.bind_some]
    rw [htouched.anchors, dragged_concat hc, ih b hb hi, hdrag]
    exact or_congr_right (and_iff_right hi)

lemma anchored_run (hc : (mount options env d).1.run done = .ok c) {b : Board}
    (hb : c.board = some b) {i : Nat} {n : Node} (hn : d.nodes[i]? = some n) :
    b.scene.anchors[i]? = some true ↔ Dragged (mount options env d).1 done i := by
  obtain ⟨p, hp, -⟩ := (standsFor_run hc hb).exists_particle hn
  refine anchors_run hc hb ?_
  rw [Scene.anchors, List.length_map]
  exact (List.getElem?_eq_some_iff.mp hp).1

/-- **Gestures touch only what they own**, in whatever order they come.  After any moments on a
mounted canvas a drag is on exactly if it has a particle, namely one that was shown at the press
with which it began; the particles that have been carried along are held, and no others; and the
next moment touches only what is its own, and begins a drag if it is a press on a shown particle. -/
theorem gestures_run (options : CanvasOptions) (env : Surroundings) (d : Dataset)
    {done : List Moment} {c : Canvas} (hc : (mount options env d).1.run done = .ok c) :
    (∃ s, (SwitchedCanvas.fresh (mount options env d).1).run done = .ok s ∧ s.toCanvas = c ∧
      ∀ b, s.board = some b → (b.drag.active = true ↔ b.drag.node.isSome)) ∧
    (∀ g, c.drag? = some g → DragBegan (mount options env d).1 d done g) ∧
    (∀ b i n, c.board = some b → d.nodes[i]? = some n →
      (b.scene.anchors[i]? = some true ↔ Dragged (mount options env d).1 done i)) ∧
    ∀ m after, c.take m.env m.visual m.event = .ok after →
      Touches m c after ∧ ∀ g, c.Picks m g → after.drag? = some g := by
  refine ⟨?_, fun g hg => dragBegan_run hc hg, fun b i n hb hn => anchored_run hc hb hn,
    fun m after h => ⟨touches_take h, fun g => drag?_of_picks h⟩⟩
  rw [← SwitchedCanvas.toCanvas_fresh] at hc
  exact SwitchedCanvas.exists_run (SwitchedCanvas.agrees_fresh _) hc

/-- A page that shows a canvas in its upper left corner. -/
def shownOn : Surroundings where
  window := true
  mounted := true
  drawable := true
  inner := (none, none)
  parent := none
  corner := (0, 0)

/-- A picture of two nodes. -/
def both : Visual := { Visual.blank 0 with shownNodes := .ofList [0, 1] }

/-- The first particle is pressed. -/
def pressing : Moment := ⟨shownOn, both, .gesture (.press 400 60)⟩

/-- The pointer moves elsewhere. -/
def moving : Moment := ⟨shownOn, both, .gesture (.move 460 105)⟩

/-- The first particle is dragged and held from then on, the second one is not. -/
theorem gestures_dragging :
    ∃ c b g, (mount {} shownOn (.ofGraph Scene.pair)).1.run [pressing, moving] = .ok c ∧
      c.board = some b ∧ b.scene.anchors[0]? = some true ∧ b.scene.anchors[1]? ≠ some true ∧
      c.drag? = some g ∧ DragBegan (mount {} shownOn (.ofGraph Scene.pair)).1
        (.ofGraph Scene.pair) [pressing, moving] g := by
  have hnodes : (Dataset.ofGraph Scene.pair).nodes = Scene.pair.nodes := by cbv
  have hplaces : (Dataset.ofGraph Scene.pair).places = [⟨0, 0⟩, ⟨0, 1⟩] := by cbv
  have hat : (Scene.ofDataset (.ofGraph Scene.pair) 800 600 true).particleAt (400 - 0) (60 - 0)
      both.showsNode = some 0 := by
    simp only [Scene.particleAt, Scene.ofDataset, hnodes, hplaces]
    decide +kernel
  obtain ⟨p, hp, -⟩ := (Scene.particleAt_eq_some_iff.mp hat).1
  obtain ⟨c, b, g, hc, hb, hg, hnode⟩ : ∃ c b g, (mount {} shownOn (.ofGraph Scene.pair)).1.run
      [pressing] = .ok c ∧ c.board = some b ∧ b.drag = some g ∧ g.node = 0 := by
    refine ⟨_, (Board.ofScene (.ofDataset (.ofGraph Scene.pair) 800 600 true)).press both
      (400 - 0) (60 - 0), ⟨0, 400 - 0, 60 - 0, p.body.x, p.body.y⟩, rfl, rfl, ?_, rfl⟩
    rw [Board.press, Board.shownAt, Board.ofScene, hat]
    dsimp only
    rw [hp]
  have hmoved : (mount {} shownOn (.ofGraph Scene.pair)).1.run [pressing, moving]
      = .ok { c with board := some (b.move both (460 - 0) (105 - 0)) } := by
    refine run_concat.mpr ⟨c, hc, ?_⟩
    obtain ⟨board, framePending, followsWindow⟩ := c
    obtain rfl : board = some b := hb
    rfl
  have hdrag : (b.move both (460 - 0) (105 - 0)).drag = some g := (drag_move _ _ _ _).trans hg
  have hdragged (i : Nat) : Dragged (mount {} shownOn (.ofGraph Scene.pair)).1 [pressing, moving] i
      ↔ i = 0 := by
    have hstart : (mount {} shownOn (.ofGraph Scene.pair)).1.run []
        = .ok (mount {} shownOn (.ofGraph Scene.pair)).1 := rfl
    have hc' : c.drag? = some g := Option.bind_eq_some_iff.mpr ⟨b, hb, hg⟩
    rw [← List.singleton_append, dragged_concat hc, ← List.nil_append [pressing],
      dragged_concat hstart]
    constructor
    · rintro ((hnil | ⟨-, g', hg', -⟩) | ⟨-, g', hg', rfl⟩)
      · exact absurd hnil not_dragged_nil
      · cases hg'
      · rwa [← Option.some.inj (hc'.symm.trans hg')]
    · rintro rfl
      exact Or.inr ⟨⟨_, 460, 105, rfl, rfl⟩, g, hc', hnode⟩
  obtain ⟨-, hbegan, hheld, -⟩ := gestures_run {} shownOn (.ofGraph Scene.pair) hmoved
  refine ⟨_, _, g, hmoved, rfl, ?_, ?_, hdrag, hbegan g hdrag⟩
  · exact (hheld _ 0 ⟨0, "", .plain, 0, none, false⟩ rfl (by rw [hnodes]; rfl)).mpr
      ((hdragged 0).mpr rfl)
  · refine mt (hheld _ 1 ⟨1, "", .plain, 1, none, false⟩ rfl (by rw [hnodes]; rfl)).mp ?_
    rw [hdragged]
    decide

end Canvas

end Retrace
