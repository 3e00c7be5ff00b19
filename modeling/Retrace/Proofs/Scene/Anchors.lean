import Mathlib.Logic.Relation
import Retrace.Proofs.Scene.Evolution

/-!
Which particles are held.

A round of the simulation moves the bodies but neither anchors one nor lets one go: only somebody
who changes a body by hand does that.

* `Simulation.anchors_turn`, `Simulation.anchors_advance`: a round and the anchors;
* `Scene.anchors`, `Scene.spots`: what is held and where everything is, in scene order;
  `Scene.anchors_changeBody`, `Scene.spots_changeBody`: one body is changed;
* `Scene.Elapses.keeps`: what time leaves alone.
-/

namespace Retrace

namespace Simulation

variable {springs : Springs} {dt : Float32} {bodies after : List Body}

/-- Which bodies are held. -/
def anchors (bodies : List Body) : List Bool := bodies.map (·.anchored)

@[simp] lemma anchored_apply (dt : Float32) (force : Float32 × Float32) (b : Body) :
    (apply dt force b).anchored = b.anchored := rfl

@[simp] lemma anchored_applyFree (dt : Float32) (force : Float32 × Float32) (b : Body) :
    (applyFree dt force b).anchored = b.anchored := by
  rw [applyFree]
  split <;> rfl

@[simp] lemma anchored_move (dt : Float32) (b : Body) : (move dt b).anchored = b.anchored := by
  rw [move]
  split <;> rfl

/-- Forces that act one after the other leave the body as free as it was. -/
lemma anchored_foldl {α : Type} {act : Body → α → Body}
    (h : ∀ b a, (act b a).anchored = b.anchored) (as : List α) (b : Body) :
    (as.foldl act b).anchored = b.anchored := by
  induction as generalizing b with
  | nil => rfl
  | cons a as ih => rw [List.foldl_cons, ih, h]

lemma anchors_turn {i : Nat} (h : turn springs dt bodies i = .ok after) :
    anchors after = anchors bodies := by
  rw [turn] at h
  split at h
  · cases h
    rfl
  · case _ b hb =>
      obtain ⟨hi, hget⟩ := List.getElem?_eq_some_iff.mp hb
      dsimp only at h
      split at h
      · cases h
      · cases h
        have hpushed (later near : List Body) : (later.foldl (fun b o => applyFree dt
            (repulsion b o) b) (near.foldl (fun b o => apply dt (attraction b o) b) b)).anchored
              = b.anchored := by
          rw [anchored_foldl fun _ _ => anchored_applyFree _ _ _,
            anchored_foldl fun _ _ => anchored_apply _ _ _]
        have hanswered : (bodies.drop (i + 1)).map (fun o => (applyFree dt
            (-(repulsion b o).1, -(repulsion b o).2) o).anchored) = anchors (bodies.drop (i + 1)) :=
          List.map_congr_left fun _ _ => anchored_applyFree _ _ _
        -- the body that takes its turn stands between the earlier and the later ones
        calc anchors _
            = anchors (bodies.take i) ++ b.anchored :: anchors (bodies.drop (i + 1)) := by
              rw [anchors, List.map_append, List.map_cons, List.map_map, anchored_move, hpushed,
                Function.comp_def, hanswered, anchors, anchors]
          _ = anchors bodies := by
              rw [anchors, anchors, ← List.map_cons, ← List.map_append, ← hget,
                List.getElem_cons_drop, List.take_append_drop, anchors]

/-- A round neither anchors a body nor lets one go. -/
lemma anchors_advance (h : advance springs dt bodies = .ok after) :
    anchors after = anchors bodies := by
  rw [advance] at h
  generalize List.range bodies.length = is at h
  induction is generalizing bodies with
  | nil =>
      cases h
      rfl
  | cons i is ih =>
      rw [List.foldlM_cons] at h
      cases hturn : turn springs dt bodies i with
      | error f =>
          rw [hturn] at h
          cases h
      | ok next =>
          rw [hturn] at h
          rw [ih h, anchors_turn hturn]

end Simulation

namespace Scene

variable {s t : Scene}

/-- Which particles are held, in scene order. -/
def anchors (s : Scene) : List Bool := s.particles.map (·.body.anchored)

/-- Where the particles are, in scene order. -/
def spots (s : Scene) : List (Float32 × Float32) := s.particles.map fun p => (p.body.x, p.body.y)

/-- At first no particle is held. -/
lemma not_mem_anchors_ofDataset (d : Dataset) (width height : Float) (showEdgeLabels : Bool) :
    true ∉ (ofDataset d width height showEdgeLabels).anchors := by
  intro hmem
  obtain ⟨p, hp, hheld⟩ := List.mem_map.mp hmem
  obtain ⟨i, hi⟩ := List.mem_iff_getElem?.mp hp
  obtain ⟨n, place, -, -, rfl⟩ := List.getElem?_zipWith_eq_some.mp hi
  cases hheld

/-- A change of one body that fixes some part of it sets this part. -/
lemma map_changeBody {α : Type} (part : Body → α) {change : Body → Body} {a : α}
    (h : ∀ body, part (change body) = a) (s : Scene) (i : Nat) :
    (s.changeBody i change).particles.map (part ·.body)
      = (s.particles.map (part ·.body)).set i a := by
  refine List.ext_getElem? fun j => ?_
  rw [changeBody, List.getElem?_map, List.getElem?_modify, List.getElem?_set, List.length_map,
    List.getElem?_map]
  by_cases hij : i = j
  · subst hij
    cases hp : s.particles[i]? with
    | none => simpa using hp
    | some p =>
        obtain ⟨hi, -⟩ := List.getElem?_eq_some_iff.mp hp
        simp [h, hi]
  · cases s.particles[j]? <;> simp [hij]

lemma anchors_changeBody {i : Nat} {change : Body → Body} {anchored : Bool}
    (h : ∀ body, (change body).anchored = anchored) :
    (s.changeBody i change).anchors = s.anchors.set i anchored :=
  map_changeBody (·.anchored) h s i

lemma spots_changeBody {i : Nat} {change : Body → Body} {spot : Float32 × Float32}
    (h : ∀ body, ((change body).x, (change body).y) = spot) :
    (s.changeBody i change).spots = s.spots.set i spot :=
  map_changeBody (fun body => (body.x, body.y)) h s i

/-- The particles move and are neither anchored nor let go. -/
lemma anchors_tick {dt : Float32} (h : s.tick dt = .ok t) : t.anchors = s.anchors := by
  rw [tick, settle] at h
  cases hadvance : Simulation.advance s.springs dt (s.particles.map (·.body)) with
  | error f =>
      rw [hadvance] at h
      cases h
  | ok bodies =>
      rw [hadvance] at h
      cases h
      have hanchors := Simulation.anchors_advance hadvance
      have hlength : bodies.length = s.particles.length := by
        simpa [Simulation.anchors] using congrArg List.length hanchors
      calc List.map _ (List.zipWith _ s.particles bodies)
          = List.zipWith (fun body _ => body.anchored) bodies s.particles := by
            rw [List.map_zipWith, List.zipWith_comm]
        _ = Simulation.anchors bodies := zipWith_eq_map_left _ hlength
        _ = s.anchors := by
            rw [hanchors, Simulation.anchors, List.map_map]
            rfl

/-- Time passes on a scene, in one or more pieces, or not at all. -/
def Elapses : Scene → Scene → Prop :=
  Relation.ReflTransGen fun s t => ∃ dt, s.tick dt = .ok t

/-- Time leaves the plane and the anchors alone. -/
lemma Elapses.keeps (h : s.Elapses t) : t.transform = s.transform ∧ t.anchors = s.anchors := by
  induction h with
  | refl => exact ⟨rfl, rfl⟩
  | tail _ hlast ih =>
      obtain ⟨dt, hdt⟩ := hlast
      obtain ⟨particles, flowTime, passed, hu, -⟩ := tick_eq_ok hdt
      exact ⟨by rw [hu, ← ih.1], (anchors_tick hdt).trans ih.2⟩

end Scene

end Retrace
