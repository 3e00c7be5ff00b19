import Mathlib.Tactic.Lemma
import Retrace.Scene.Hover

/-!
When the simulation can go on.

A body that is joined to itself cannot take its turn, and nothing else stops a round: neither the
positions of the bodies nor how long a round lasts matter.

* `Simulation.Looped`: some body is joined to itself;
* `Simulation.turn_of_not_mem`, `Simulation.turn_of_mem`: one turn;
* `Simulation.advance_of_not_looped`, `Simulation.advance_of_looped`: a round;
* `Scene.looped_ofDataset_iff`: the springs of a scene join a body to itself exactly if the
  dataset has an edge from a node to itself.
-/

namespace Retrace

namespace Simulation

variable {springs : Springs} {bodies : List Body} {i j : Nat}

/-- Among so many bodies there is one that is joined to itself. -/
def Looped (springs : Springs) (count : Nat) : Prop := ∃ i < count, (i, i) ∈ springs

/-! ### Springs -/

lemma mem_neighbours_self : i ∈ springs.neighbours i ↔ (i, i) ∈ springs := by
  simp [Springs.neighbours]

/-- A new spring joins its two bodies and no others. -/
lemma joined_join_iff {a b : Nat} :
    (i, j) ∈ springs.join a b ∨ (j, i) ∈ springs.join a b
      ↔ ((i, j) ∈ springs ∨ (j, i) ∈ springs) ∨ (a = i ∧ b = j) ∨ (a = j ∧ b = i) := by
  rw [Springs.join]
  split
  · case isTrue h =>
      constructor
      · exact Or.inl
      · rintro (hij | ⟨rfl, rfl⟩ | ⟨rfl, rfl⟩)
        · exact hij
        · exact h
        · exact h.symm
  · simp only [List.mem_append, List.mem_singleton, Prod.mk.injEq, eq_comm]
    rw [or_or_or_comm]

/-! ### Turns -/

variable (dt : Float32)

lemma turn_of_mem (hi : i < bodies.length) (h : (i, i) ∈ springs) :
    turn springs dt bodies i = .error .selfAttraction := by
  rw [turn, List.getElem?_eq_getElem hi]
  exact if_pos (mem_neighbours_self.mpr h)

lemma turn_of_not_mem (h : i < bodies.length → (i, i) ∉ springs) :
    ∃ after, turn springs dt bodies i = .ok after ∧ after.length = bodies.length := by
  rw [turn]
  by_cases hi : i < bodies.length
  · rw [List.getElem?_eq_getElem hi]
    refine ⟨_, if_neg fun hmem => h hi (mem_neighbours_self.mp hmem), ?_⟩
    simp
    omega
  · rw [List.getElem?_eq_none (Nat.le_of_not_lt hi)]
    exact ⟨bodies, rfl, rfl⟩

lemma turns_of_not_looped (h : ¬ Looped springs bodies.length) (is : List Nat) :
    ∃ after, is.foldlM (turn springs dt) bodies = .ok after ∧ after.length = bodies.length := by
  induction is generalizing bodies with
  | nil => exact ⟨bodies, rfl, rfl⟩
  | cons i is ih =>
      obtain ⟨next, hnext, hlength⟩ :=
        turn_of_not_mem dt fun hi hmem => h ⟨i, hi, hmem⟩
      obtain ⟨after, hafter, hlength'⟩ := ih (hlength ▸ h)
      refine ⟨after, ?_, hlength'.trans hlength⟩
      rw [List.foldlM_cons, hnext]
      exact hafter

/-- A body that is joined to itself stops the turns, if no earlier one has. -/
lemma turns_of_mem (hi : i < bodies.length) (h : (i, i) ∈ springs) {is : List Nat}
    (his : i ∈ is) : is.foldlM (turn springs dt) bodies = .error .selfAttraction := by
  induction is generalizing bodies with
  | nil => cases his
  | cons j is ih =>
      rw [List.foldlM_cons]
      by_cases hj : j < bodies.length ∧ (j, j) ∈ springs
      · rw [turn_of_mem dt hj.1 hj.2]
        rfl
      · obtain ⟨next, hnext, hlength⟩ :=
          turn_of_not_mem dt fun hj' hmem => hj ⟨hj', hmem⟩
        rw [hnext]
        refine ih (hlength ▸ hi) ((List.mem_cons.mp his).resolve_left ?_)
        rintro rfl
        exact hj ⟨hi, h⟩

/-! ### Rounds -/

lemma advance_of_not_looped (h : ¬ Looped springs bodies.length) :
    ∃ after, advance springs dt bodies = .ok after ∧ after.length = bodies.length :=
  turns_of_not_looped dt h _

lemma advance_of_looped (h : Looped springs bodies.length) :
    advance springs dt bodies = .error .selfAttraction := by
  obtain ⟨i, hi, hmem⟩ := h
  exact turns_of_mem dt hi hmem (List.mem_range.mpr hi)

end Simulation

/-- The dataset has an edge from a node to itself. -/
def Dataset.HasLoop (d : Dataset) : Prop :=
  ∃ e ∈ d.edges, e.source = e.target ∧ ∃ n ∈ d.nodes, n.index = e.source

namespace Scene

open Simulation

/-! ### The springs of a dataset -/

/-- Springs join the bodies that links join. -/
lemma joined_springs_iff {links : List Link} {springs : Springs} {i j : Nat} :
    (i, j) ∈ links.foldl (fun springs l => springs.join l.source l.target) springs
        ∨ (j, i) ∈ links.foldl (fun springs l => springs.join l.source l.target) springs
      ↔ ((i, j) ∈ springs ∨ (j, i) ∈ springs) ∨ ∃ l ∈ links, l.joins i j = true := by
  induction links generalizing springs with
  | nil => simp
  | cons l links ih =>
      rw [List.foldl_cons, ih, joined_join_iff, or_assoc]
      simp only [List.mem_cons, exists_eq_or_imp, Link.joins, decide_eq_true_eq]

variable {d : Dataset}

lemma node_of_numberOf? {id : NodeId} {i : Nat} (h : numberOf? d id = some i) :
    ∃ n, d.nodes[i]? = some n ∧ n.index = id := by
  obtain ⟨hi, hindex, -⟩ := List.findIdx?_eq_some_iff_getElem.mp h
  exact ⟨d.nodes[i], List.getElem?_eq_getElem hi, by simpa using hindex⟩

lemma exists_numberOf? {n : Node} (hn : n ∈ d.nodes) : ∃ i, numberOf? d n.index = some i := by
  rw [← Option.isSome_iff_exists, numberOf?, List.findIdx?_isSome, List.any_eq_true]
  exact ⟨n, hn, beq_self_eq_true _⟩

/-- A link joins the particles that carry the numbers of the ends of its edge. -/
lemma mem_linksOf_iff {l : Link} :
    l ∈ linksOf d ↔ ∃ e, d.edges[l.id]? = some e ∧ numberOf? d e.source = some l.source
      ∧ numberOf? d e.target = some l.target ∧ e.label = l.label := by
  rw [linksOf, List.mem_filterMap]
  constructor
  · rintro ⟨⟨e, id⟩, he, hlink⟩
    simp only [linkOf?, Option.bind_eq_bind, Option.bind_eq_some_iff, Option.pure_def,
      Option.some.injEq] at hlink
    obtain ⟨i, hi, j, hj, rfl⟩ := hlink
    exact ⟨e, List.mk_mem_zipIdx_iff_getElem?.mp he, hi, hj, rfl⟩
  · rintro ⟨e, he, hi, hj, hlabel⟩
    refine ⟨(e, l.id), List.mk_mem_zipIdx_iff_getElem?.mpr he, ?_⟩
    simp [linkOf?, hi, hj, hlabel]

lemma exists_self_link_iff : (∃ l ∈ linksOf d, l.source = l.target) ↔ d.HasLoop := by
  constructor
  · rintro ⟨l, hl, hself⟩
    obtain ⟨e, he, hi, hj, -⟩ := mem_linksOf_iff.mp hl
    rw [← hself] at hj
    obtain ⟨n, hn, hsource⟩ := node_of_numberOf? hi
    obtain ⟨m, hm, htarget⟩ := node_of_numberOf? hj
    obtain rfl : n = m := Option.some.inj (hn.symm.trans hm)
    exact ⟨e, List.mem_of_getElem? he, hsource.symm.trans htarget, n, List.mem_of_getElem? hn,
      hsource⟩
  · rintro ⟨e, he, hself, n, hn, hindex⟩
    obtain ⟨id, hid⟩ := List.mem_iff_getElem?.mp he
    obtain ⟨i, hi⟩ := exists_numberOf? hn
    rw [hindex] at hi
    exact ⟨⟨id, i, i, e.label⟩, mem_linksOf_iff.mpr ⟨e, hid, hi, hself ▸ hi, rfl⟩, rfl⟩

/-- There is a place for each node. -/
@[simp] lemma length_places (d : Dataset) : d.places.length = d.nodes.length := by
  simp [Dataset.places, placesIn, Dataset.rows]

variable (width height : Float) (showEdgeLabels : Bool)

lemma length_particles_ofDataset :
    (ofDataset d width height showEdgeLabels).particles.length = d.nodes.length := by
  simp [ofDataset]

/-- **The springs of a dataset**: the picture holds a body that is joined to itself exactly if the
dataset has an edge from a node to itself. -/
theorem looped_ofDataset_iff :
    Looped (ofDataset d width height showEdgeLabels).springs
        (ofDataset d width height showEdgeLabels).particles.length
      ↔ d.HasLoop := by
  have hjoined (i : Nat) : (i, i) ∈ (ofDataset d width height showEdgeLabels).springs
      ↔ ∃ l ∈ linksOf d, l.source = i ∧ l.target = i := by
    rw [ofDataset, ← or_self ((i, i) ∈ _), joined_springs_iff]
    simp [Link.joins]
  rw [← exists_self_link_iff, length_particles_ofDataset, Looped]
  simp only [hjoined]
  constructor
  · rintro ⟨i, -, l, hl, hsource, htarget⟩
    exact ⟨l, hl, hsource.trans htarget.symm⟩
  · rintro ⟨l, hl, hself⟩
    obtain ⟨e, -, hi, -⟩ := mem_linksOf_iff.mp hl
    obtain ⟨n, hn, -⟩ := node_of_numberOf? hi
    exact ⟨l.source, (List.getElem?_eq_some_iff.mp hn).1, l, hl, rfl, hself.symm⟩

end Scene

end Retrace
