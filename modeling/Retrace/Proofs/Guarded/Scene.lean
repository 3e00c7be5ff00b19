import Retrace.Proofs.Guarded.Replay
import Retrace.Proofs.Scene.Springs

/-!
The replay and the scene of a graph, with every access and every sum checked.

Setting a scene up adds one to a row when a wave follows, to the last row for the nodes that no wave
reaches, and to the number of nodes in a row for each node; a spring joins particles that have to
be there.

* `Guarded.rows`, `Guarded.places`, `Guarded.join`, `Guarded.scene`: the checked scene;
* `Dataset.length_waves_le`: there are at most as many waves as edges, and one more;
* `Guarded.rows_eq`, `Guarded.places_eq`, `Guarded.scene_eq`: no check fails;
* `Engine.never_panics`: neither the replay of a graph in memory nor its scene panics.
-/

namespace Retrace

namespace Guarded

/-! ### The checked scene -/

/-- The waves from a frontier in the given row on. -/
def wavesFrom (d : Dataset) (row : Nat) (seen frontier : List NodeId) :
    Except Panic (List (List NodeId)) :=
  match _h : d.nextWave seen frontier with
  | [] => .ok [frontier]
  | first :: more => do
    let row ← next row
    let below ← wavesFrom d row (seen ++ first :: more) (first :: more)
    return frontier :: below
termination_by d.unseenTargets seen
decreasing_by
  have hm : first ∈ d.nextWave seen frontier := by simp [_h]
  obtain ⟨hn, he⟩ := Dataset.mem_nextWave hm
  exact Dataset.unseenTargets_append_lt (by simp) hn he

/-- The waves from the first node in step order. -/
def waves (d : Dataset) : Except Panic (List (List NodeId)) :=
  match d.nodes with
  | [] => .ok []
  | root :: _ => wavesFrom d 0 [root.index] [root.index]

/-- The row below all waves. -/
def rowBelow : List (List NodeId) → Except Panic Nat
  | [] => .ok 0
  | _ :: more => next more.length

/-- The rows of the nodes, in step order. -/
def rows (d : Dataset) : Except Panic (List Nat) := do
  let waves ← waves d
  let below ← rowBelow waves
  return d.nodes.map fun n => (waves.findIdx? (·.contains n.index)).getD below

/-- The place of a node in a row with the given number of earlier nodes. -/
def placeIn (row earlier : Nat) : Except Panic Place := do
  let nodes ← next earlier
  return ⟨if earlier % 2 = 0 then (earlier / 2 : Nat) else -(nodes / 2 : Nat), row⟩

/-- The first places of the nodes, in step order. -/
def places (d : Dataset) : Except Panic (List Place) := do
  let rows ← rows d
  rows.zipIdx.mapM fun (row, i) => placeIn row ((rows.take i).count row)

/-- Joins two of the given number of particles. -/
def join (particles : Nat) (springs : Simulation.Springs) (l : Link) :
    Except Panic Simulation.Springs :=
  if l.source < particles ∧ l.target < particles then .ok (springs.join l.source l.target)
  else .error .outOfBounds

/-- The scene of a dataset on a screen of the given size. -/
def scene (d : Dataset) (width height : Float) (showEdgeLabels : Bool) : Except Panic Scene := do
  let places ← places d
  let particles := List.zipWith Scene.particleOf d.nodes places
  let springs ← (Scene.linksOf d).foldlM (join particles.length) []
  return { Scene.ofDataset d width height showEdgeLabels with particles, springs }

end Guarded

/-! ### How many rows there are -/

namespace Dataset

variable {d : Dataset} {seen frontier : List NodeId}

/-- A wave that follows leaves fewer edges with an unseen target. -/
lemma unseenTargets_of_cons {first : NodeId} {more : List NodeId}
    (h : d.nextWave seen frontier = first :: more) :
    d.unseenTargets (seen ++ first :: more) < d.unseenTargets seen := by
  have hfirst : first ∈ d.nextWave seen frontier := h ▸ List.mem_cons_self ..
  obtain ⟨hnew, htarget⟩ := mem_nextWave hfirst
  exact unseenTargets_append_lt (List.mem_cons_self ..) hnew htarget

/-- Each further wave sees a target that no earlier one has seen. -/
lemma length_wavesFrom_le (d : Dataset) (seen frontier : List NodeId) :
    (d.wavesFrom seen frontier).length ≤ d.unseenTargets seen + 1 := by
  fun_induction wavesFrom d seen frontier with
  | case1 => exact Nat.succ_le_succ (Nat.zero_le _)
  | case2 seen frontier first more hnext ih =>
      have hfewer := unseenTargets_of_cons hnext
      rw [List.length_cons]
      omega

lemma unseenTargets_le (d : Dataset) (seen : List NodeId) : d.unseenTargets seen ≤ d.edges.length :=
  List.countP_le_length

lemma length_waves_le (d : Dataset) : d.waves.length ≤ d.edges.length + 1 := by
  rw [waves]
  cases d.nodes with
  | nil => exact Nat.zero_le _
  | cons root more =>
      exact Nat.le_trans (d.length_wavesFrom_le _ _) (Nat.succ_le_succ (d.unseenTargets_le _))

end Dataset

namespace Guarded

/-! ### No check fails -/

variable {d : Dataset}

lemma wavesFrom_eq {row : Nat} {seen frontier : List NodeId}
    (h : row + d.unseenTargets seen < USize.size) :
    wavesFrom d row seen frontier = .ok (d.wavesFrom seen frontier) := by
  fun_induction Dataset.wavesFrom d seen frontier generalizing row with
  | case1 seen frontier hnext =>
      rw [wavesFrom]
      split
      · rfl
      · case _ hcons =>
          rw [hnext] at hcons
          cases hcons
  | case2 seen frontier first more hnext ih =>
      have hfewer := Dataset.unseenTargets_of_cons hnext
      rw [wavesFrom]
      split
      · case _ hnil =>
          rw [hnext] at hnil
          cases hnil
      · case _ hcons =>
          obtain ⟨rfl, rfl⟩ := List.cons.inj (hnext.symm.trans hcons)
          rw [next_eq (by omega)]
          simp only [bind, Except.bind]
          rw [ih (by omega)]
          rfl

lemma waves_eq (hd : d.Safe) : waves d = .ok d.waves := by
  have hedges := hd.edges
  rw [waves, Dataset.waves]
  cases d.nodes with
  | nil => rfl
  | cons root more =>
      have htargets := d.unseenTargets_le [root.index]
      exact wavesFrom_eq (by omega)

lemma rowBelow_eq (hd : d.Safe) : rowBelow d.waves = .ok d.waves.length := by
  have hedges := hd.edges
  have hwaves := d.length_waves_le
  cases hcases : d.waves with
  | nil => rfl
  | cons first more =>
      rw [hcases, List.length_cons] at hwaves
      exact next_eq (by omega)

/-- A node stands in the row of its wave, or in the row below all waves. -/
lemma rows_eq (hd : d.Safe) : rows d = .ok d.rows := by
  have hrows : d.rows
      = d.nodes.map fun n => (d.waves.findIdx? (·.contains n.index)).getD d.waves.length := by
    refine List.map_congr_left fun n hn => ?_
    have hnode : d.nodes.any (·.index == n.index) = true :=
      List.any_eq_true.2 ⟨n, hn, beq_self_eq_true _⟩
    rw [Dataset.rowAmong]
    cases d.waves.findIdx? (·.contains n.index) with
    | none => simp only [hnode, if_true, Option.getD_some, Option.getD_none]
    | some row => rfl
  rw [rows, waves_eq hd, hrows]
  simp only [bind, Except.bind, rowBelow_eq hd]
  rfl

lemma placeIn_eq {row earlier : Nat} (h : earlier + 1 < USize.size) :
    placeIn row earlier = .ok ⟨Place.columnOf earlier, row⟩ := by
  rw [placeIn, next_eq h]
  rfl

lemma places_eq (hd : d.Safe) : places d = .ok d.places := by
  rw [places, rows_eq hd]
  refine mapM_eq_ok fun x hx => ?_
  have hcount : (d.rows.take x.2).count x.1 ≤ d.nodes.length := by
    calc (d.rows.take x.2).count x.1
        ≤ (d.rows.take x.2).length := List.count_le_length
      _ ≤ d.rows.length := List.length_take_le' ..
      _ = d.nodes.length := List.length_map ..
  have hnodes := hd.nodes
  exact placeIn_eq (by omega)

/-- A link joins particles that are there. -/
lemma lt_of_mem_linksOf {l : Link} (hl : l ∈ Scene.linksOf d) :
    l.source < d.nodes.length ∧ l.target < d.nodes.length := by
  obtain ⟨e, -, hsource, htarget, -⟩ := Scene.mem_linksOf_iff.1 hl
  obtain ⟨n, hn, -⟩ := Scene.node_of_numberOf? hsource
  obtain ⟨m, hm, -⟩ := Scene.node_of_numberOf? htarget
  exact ⟨(List.getElem?_eq_some_iff.1 hn).1, (List.getElem?_eq_some_iff.1 hm).1⟩

/-- **Setting a scene up does not panic.** -/
theorem scene_eq (hd : d.Safe) (width height : Float) (showEdgeLabels : Bool) :
    scene d width height showEdgeLabels = .ok (Scene.ofDataset d width height showEdgeLabels) := by
  have hparticles : (List.zipWith Scene.particleOf d.nodes d.places).length = d.nodes.length := by
    rw [List.length_zipWith, Scene.length_places, Nat.min_self]
  have hsprings : (Scene.linksOf d).foldlM
      (join (List.zipWith Scene.particleOf d.nodes d.places).length) []
        = .ok (Scene.ofDataset d width height showEdgeLabels).springs := by
    refine (foldlM_eq_ok (fun _ => True) (fun springs _ l hl => ⟨?_, trivial⟩) trivial).1
    rw [hparticles]
    exact if_pos (lt_of_mem_linksOf hl)
  rw [scene, places_eq hd]
  simp only [bind, Except.bind, hsprings]
  rfl

end Guarded

namespace Engine

/-- **Nothing panics.**  Take any graph in memory, whatever is wrong with its nodes and edges, in
which no node starts at the greatest number.  Every run of actions on its replay goes through, every
step can be shown, and the scene can be set up, with links between particles that are there: no
access is out of bounds and no sum overflows, and the results are those of the functions without
checks. -/
theorem never_panics (g : Graph) (hmem : g.InMemory)
    (hstart : ∀ n ∈ g.nodes, n.intervalStart ≠ Int64.maxValue) :
    (∀ actions, Guarded.run (ofGraph g) actions = .ok ((ofGraph g).run actions))
      ∧ (∀ step, Guarded.visualAt (.ofGraph g) step = .ok ((Dataset.ofGraph g).visualAt step))
      ∧ ∀ width height showEdgeLabels,
        Guarded.scene (.ofGraph g) width height showEdgeLabels
            = .ok (Scene.ofDataset (.ofGraph g) width height showEdgeLabels)
          ∧ ∀ l ∈ (Scene.ofDataset (.ofGraph g) width height showEdgeLabels).links,
            l.source < (Scene.ofDataset (.ofGraph g) width height showEdgeLabels).particles.length
              ∧ l.target
                < (Scene.ofDataset (.ofGraph g) width height showEdgeLabels).particles.length := by
  have hsafe := Dataset.safe_ofGraph hmem hstart
  refine ⟨Guarded.run_eq hsafe (Nat.zero_le _), Guarded.visualAt_eq hsafe,
    fun width height showEdgeLabels =>
      ⟨Guarded.scene_eq hsafe width height showEdgeLabels, fun l hl => ?_⟩⟩
  rw [Scene.length_particles_ofDataset]
  exact Guarded.lt_of_mem_linksOf hl

/-- Two nodes have one index, starts, stops and lines stand at the ends of their range, one edge is
a loop and one leads nowhere. -/
def hostile : Graph where
  nodes := [
    ⟨7, "", .plain, Int64.maxValue - 1, none, false⟩,
    ⟨7, "", .merged, Int64.minValue, some Int64.minValue, true⟩,
    ⟨2, "", .other "?", 0, some 0, false⟩]
  edges := [⟨7, 7, "", Int64.minValue⟩, ⟨2, 9, "", Int64.maxValue⟩, ⟨7, 2, "", 4294967295⟩]

theorem never_panics_hostile :
    hostile.InMemory
      ∧ (∀ n ∈ hostile.nodes, n.intervalStart ≠ Int64.maxValue)
      ∧ Guarded.run (ofGraph hostile) [.advanceTo 18446744073709551615, .stepForward, .stepBack]
        = .ok ((ofGraph hostile).run [.advanceTo 18446744073709551615, .stepForward, .stepBack])
      ∧ Scene.linksOf (.ofGraph hostile) = [⟨0, 0, 0, ""⟩, ⟨2, 0, 1, ""⟩]
      ∧ ∀ l ∈ Scene.linksOf (.ofGraph hostile),
        l.source < (Scene.ofDataset (.ofGraph hostile) 800 600 true).particles.length
          ∧ l.target < (Scene.ofDataset (.ofGraph hostile) 800 600 true).particles.length := by
  have hmem : hostile.InMemory := by
    have hsize := USize.le_size
    constructor <;> simp only [hostile, List.length_cons, List.length_nil] <;> omega
  have hstart : ∀ n ∈ hostile.nodes, n.intervalStart ≠ Int64.maxValue := by decide
  obtain ⟨hrun, -, hscene⟩ := never_panics hostile hmem hstart
  exact ⟨hmem, hstart, hrun _, by cbv, (hscene 800 600 true).2⟩

end Engine

end Retrace
