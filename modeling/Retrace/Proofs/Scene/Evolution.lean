import Retrace.Proofs.Graph.Incidence
import Retrace.Proofs.Scene.Springs

/-!
What a scene keeps while it is looked at and played with.

Pointing, dragging, zooming, resizing and the simulation change where the particles are, how the
plane lies and what is highlighted.  None of them changes what the particles and the links stand
for.

* `Scene.Becomes`: the scenes that a scene can turn into; `Scene.exists_setHover`,
  `Scene.tick_eq_ok`: what the pointer and time change;
* `Scene.skeleton`: what decides whether time can pass on a scene, with `Scene.tick_of_not_looped`
  and `Scene.tick_of_looped`; `Scene.Becomes.skeleton`: it stays the same;
* `Hover.Coherent`, `Scene.Becomes.coherent`: only a focus highlights neighbours;
* `Scene.StandsFor`: a scene stands for a dataset; `Scene.standsFor_ofDataset`,
  `Scene.Becomes.standsFor`: the scene of a dataset does, and whatever becomes of it;
* `Scene.StandsFor.exists_particle`, `Scene.StandsFor.exists_node`: each node has its particle, and
  each particle its node;
* `Scene.pairwise_linksOf`: the links stand in edge order.
-/

namespace Retrace

namespace Hover

/-- There are no neighbours of a focus that is not there. -/
structure Coherent (h : Hover) : Prop where
  neighbours : h.node = none → h.neighbours = []
  previousNeighbours : h.previous = none → h.previousNeighbours = []

lemma coherent_idle : idle.Coherent := ⟨fun _ => rfl, fun _ => rfl⟩

lemma Coherent.pass {h : Hover} (hh : h.Coherent) (dt : Float) : (h.pass dt).Coherent := by
  unfold Hover.pass
  dsimp only
  split
  · exact ⟨hh.neighbours, hh.previousNeighbours⟩
  · split
    · exact ⟨hh.neighbours, fun _ => rfl⟩
    · exact ⟨hh.neighbours, hh.previousNeighbours⟩

end Hover

namespace Scene

/-- What a scene can turn into. -/
inductive Becomes (s : Scene) : Scene → Prop
  | refl : s.Becomes s
  /-- The pointer comes to a particle, or to none. -/
  | hover {t : Scene} (node : Option Nat) (h : s.Becomes t) : s.Becomes (t.setHover node)
  /-- Time passes. -/
  | tick {t u : Scene} (dt : Float32) (h : s.Becomes t) (hu : t.tick dt = .ok u) : s.Becomes u
  /-- A particle is put elsewhere, held or set in motion; to drag it is one way to do this. -/
  | place {t : Scene} (i : Nat) (change : Body → Body) (h : s.Becomes t) :
    s.Becomes (t.changeBody i change)
  /-- The plane is moved or scaled. -/
  | transform {t : Scene} (transform : Transform) (h : s.Becomes t) :
    s.Becomes { t with transform }
  /-- The pointer is elsewhere on the screen. -/
  | point {t : Scene} (pointer : Float × Float) (h : s.Becomes t) :
    s.Becomes { t with hover := { t.hover with pointer } }
  | resize {t : Scene} (width height : Float) (h : s.Becomes t) : s.Becomes (t.resize width height)

/-! ### What stays the same -/

variable {s t u : Scene}

/-- What the particles stand for, in scene order. -/
def infos (s : Scene) : List NodeInfo := s.particles.map (·.info)

/-- The pointer only changes the highlight. -/
lemma exists_setHover (s : Scene) (node : Option Nat) :
    ∃ hover, s.setHover node = { s with hover } := by
  unfold setHover
  dsimp only
  split
  · exact ⟨s.hover, rfl⟩
  · cases node with
    | none => exact ⟨_, rfl⟩
    | some i => exact ⟨_, rfl⟩

lemma infos_changeBody (s : Scene) (i : Nat) (change : Body → Body) :
    (s.changeBody i change).infos = s.infos := by
  refine List.ext_getElem? fun j => ?_
  rw [infos, infos, changeBody, List.getElem?_map, List.getElem?_map, List.getElem?_modify]
  cases s.particles[j]? with
  | none => rfl
  | some p => by_cases h : i = j <;> simp [h]

lemma zipWith_eq_map_left {α β γ : Type} (f : α → γ) {xs : List α} {ys : List β}
    (h : xs.length = ys.length) : List.zipWith (fun x _ => f x) xs ys = xs.map f := by
  induction xs generalizing ys with
  | nil => rfl
  | cons x xs ih =>
      cases ys with
      | nil => cases h
      | cons y ys =>
          rw [List.zipWith_cons_cons, List.map_cons, ih (Nat.succ.inj h)]

/-- Time moves the particles and changes the highlight. -/
lemma tick_eq_ok {dt : Float32} (hu : t.tick dt = .ok u) :
    ∃ particles flowTime passed,
      u = { t with particles, flowTime, hover := t.hover.pass passed }
        ∧ particles.map (·.info) = t.infos := by
  have hloop : ¬ Simulation.Looped t.springs (t.particles.map (·.body)).length := by
    intro hloop
    rw [tick, settle, Simulation.advance_of_looped dt hloop] at hu
    cases hu
  obtain ⟨bodies, hbodies, hlength⟩ := Simulation.advance_of_not_looped dt hloop
  rw [tick, settle, hbodies] at hu
  obtain rfl := Except.ok.inj hu
  rw [List.length_map] at hlength
  refine ⟨_, _, Precision.widen dt, rfl, ?_⟩
  rw [infos, List.map_zipWith]
  exact zipWith_eq_map_left _ hlength.symm

/-- The outlined index stays the same. -/
lemma Becomes.newest (h : s.Becomes t) : t.newest = s.newest := by
  induction h with
  | refl => rfl
  | hover node _ ih =>
      obtain ⟨hover, hset⟩ := exists_setHover _ node
      rw [hset]
      exact ih
  | tick dt _ hu ih =>
      obtain ⟨particles, flowTime, passed, rfl, -⟩ := tick_eq_ok hu
      exact ih
  | place _ _ _ ih | transform _ _ ih | point _ _ ih | resize _ _ _ ih => exact ih

/-! ### Whether time can pass -/

/-- The springs, how many particles there are, and whether they move. -/
def skeleton (s : Scene) : Simulation.Springs × Nat × Bool :=
  (s.springs, s.particles.length, s.running)

@[simp] lemma skeleton_setHover (s : Scene) (node : Option Nat) :
    (s.setHover node).skeleton = s.skeleton := by
  obtain ⟨hover, hset⟩ := s.exists_setHover node
  rw [hset]
  rfl

@[simp] lemma skeleton_changeBody (s : Scene) (i : Nat) (change : Body → Body) :
    (s.changeBody i change).skeleton = s.skeleton := by
  simp [skeleton, changeBody]

lemma tick_of_not_looped (dt : Float32)
    (h : ¬ Simulation.Looped s.springs s.particles.length) :
    ∃ after, s.tick dt = .ok after ∧ after.skeleton = s.skeleton := by
  rw [← List.length_map (·.body)] at h
  obtain ⟨bodies, hbodies, hlength⟩ := Simulation.advance_of_not_looped dt h
  refine ⟨_, by rw [tick, settle, hbodies], ?_⟩
  simp [skeleton, hlength]

lemma tick_of_looped (dt : Float32) (h : Simulation.Looped s.springs s.particles.length) :
    s.tick dt = .error .selfAttraction := by
  rw [← List.length_map (·.body)] at h
  rw [tick, settle, Simulation.advance_of_looped dt h]

/-- Nothing else keeps time from passing. -/
lemma looped_of_tick_eq_error {dt : Float32} {f : SimulationFault} (h : s.tick dt = .error f) :
    Simulation.Looped s.springs s.particles.length := by
  by_cases hloop : Simulation.Looped s.springs s.particles.length
  · exact hloop
  · obtain ⟨after, hafter, -⟩ := tick_of_not_looped dt hloop
    rw [hafter] at h
    cases h

/-- Whatever becomes of a scene, its skeleton stays the same. -/
lemma Becomes.skeleton (h : s.Becomes t) : t.skeleton = s.skeleton := by
  induction h with
  | refl => rfl
  | hover node _ ih => rw [skeleton_setHover, ih]
  | @tick t _ dt _ hu ih =>
      rw [← ih]
      by_cases hloop : Simulation.Looped t.springs t.particles.length
      · rw [tick_of_looped dt hloop] at hu
        cases hu
      · obtain ⟨after, hafter, hskeleton⟩ := tick_of_not_looped dt hloop
        obtain rfl := Except.ok.inj (hu.symm.trans hafter)
        exact hskeleton
  | place i change _ ih => rw [skeleton_changeBody, ih]
  | transform _ _ ih | point _ _ ih | resize _ _ _ ih => exact ih

/-! ### The highlight -/

lemma coherent_setHover (h : s.hover.Coherent) (node : Option Nat) :
    (s.setHover node).hover.Coherent := by
  unfold setHover
  dsimp only
  split
  · exact h
  · cases node with
    | none => exact ⟨fun _ => rfl, h.neighbours⟩
    | some i => exact ⟨nofun, fun _ => rfl⟩

/-- Whatever becomes of a scene, only a focus highlights neighbours. -/
lemma Becomes.coherent (h : s.Becomes t) (hs : s.hover.Coherent) : t.hover.Coherent := by
  induction h with
  | refl => exact hs
  | hover node _ ih => exact coherent_setHover ih node
  | tick dt _ hu ih =>
      obtain ⟨particles, flowTime, passed, rfl, -⟩ := tick_eq_ok hu
      exact ih.pass passed
  | point _ _ ih => exact ⟨ih.neighbours, ih.previousNeighbours⟩
  | place _ _ _ ih | transform _ _ ih | resize _ _ _ ih => exact ih

/-! ### What a scene stands for -/

/-- What the particle of a node stands for. -/
def infoOf (n : Node) : NodeInfo := ⟨n.index, n.label, n.kind⟩

/-- The particles of the scene stand for the nodes of a dataset, and its links for the edges. -/
structure StandsFor (d : Dataset) (s : Scene) : Prop where
  links : s.links = linksOf d
  infos : s.infos = d.nodes.map infoOf

variable {d : Dataset}

lemma standsFor_ofDataset (d : Dataset) (width height : Float) (showEdgeLabels : Bool) :
    (ofDataset d width height showEdgeLabels).StandsFor d where
  links := rfl
  infos := by
    rw [Scene.infos, ofDataset, List.map_zipWith]
    exact zipWith_eq_map_left infoOf (length_places d).symm

/-- Whatever becomes of a scene, it stands for the same dataset. -/
lemma Becomes.standsFor (h : s.Becomes t) (hs : s.StandsFor d) : t.StandsFor d := by
  induction h with
  | refl => exact hs
  | hover node _ ih =>
      obtain ⟨hover, hset⟩ := exists_setHover _ node
      rw [hset]
      exact ⟨ih.links, ih.infos⟩
  | tick dt _ hu ih =>
      obtain ⟨particles, flowTime, passed, rfl, hinfos⟩ := tick_eq_ok hu
      exact ⟨ih.links, hinfos.trans ih.infos⟩
  | place i change _ ih => exact ⟨ih.links, (infos_changeBody _ i change).trans ih.infos⟩
  | transform _ _ ih | point _ _ ih | resize _ _ _ ih => exact ⟨ih.links, ih.infos⟩

/-- There is a particle for each node. -/
lemma StandsFor.exists_particle (h : s.StandsFor d) {i : Nat} {n : Node}
    (hn : d.nodes[i]? = some n) : ∃ p, s.particles[i]? = some p ∧ p.info = infoOf n := by
  have hinfo : s.infos[i]? = some (infoOf n) := by
    rw [h.infos, List.getElem?_map, hn, Option.map_some]
  rw [Scene.infos, List.getElem?_map] at hinfo
  exact Option.map_eq_some_iff.1 hinfo

/-- There is a node for each particle. -/
lemma StandsFor.exists_node (h : s.StandsFor d) {i : Nat} {p : Particle}
    (hp : s.particles[i]? = some p) : ∃ n, d.nodes[i]? = some n ∧ p.info = infoOf n := by
  have hinfo : (d.nodes.map infoOf)[i]? = some p.info := by
    rw [← h.infos, Scene.infos, List.getElem?_map, hp, Option.map_some]
  rw [List.getElem?_map] at hinfo
  obtain ⟨n, hn, hp⟩ := Option.map_eq_some_iff.1 hinfo
  exact ⟨n, hn, hp.symm⟩

/-! ### Links -/

/-- The links stand in edge order, each once. -/
lemma pairwise_linksOf (d : Dataset) : (linksOf d).Pairwise (·.id < ·.id) := by
  have hid : ∀ {x : Edge × EdgeId} {l : Link}, linkOf? d x.2 x.1 = some l → l.id = x.2 := by
    intro x l hl
    simp only [linkOf?, Option.bind_eq_bind, Option.bind_eq_some_iff, Option.pure_def,
      Option.some.injEq] at hl
    obtain ⟨_, _, _, _, rfl⟩ := hl
    rfl
  rw [linksOf, List.pairwise_filterMap]
  refine (pairwise_zipIdx d.edges).imp fun {x y} hxy l hl m hm => ?_
  rw [hid hl, hid hm]
  exact hxy

end Scene

end Retrace
