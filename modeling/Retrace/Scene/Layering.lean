import Retrace.Dataset

/-!
The rows of the picture.

The first node in step order stands in row zero, and every index that can be reached from it stands
in the row of its distance.  Wave `k` of the search holds the indices first reached after `k`
edges; the nodes that no wave reaches stand in one row below all waves.

* `waves`: each wave holds the unseen targets of the wave before;
* `rowOf?`: the row of an index; `rows`: the rows of all nodes.
-/

namespace Retrace

namespace Dataset

/-- The indices that edges from an index lead to, in edge order. -/
def successors (d : Dataset) (id : NodeId) : List NodeId :=
  ((d.outgoing id).filterMap d.edge?).map (·.target)

/-- The indices that edges from the frontier lead to and that have not been seen. -/
def nextWave (d : Dataset) (seen frontier : List NodeId) : List NodeId :=
  ((frontier.flatMap d.successors).filter fun id => id ∉ seen).eraseDups

/-- Every index of the next wave is the target of an edge and has not been seen. -/
theorem mem_nextWave {d : Dataset} {seen frontier : List NodeId} {id : NodeId}
    (h : id ∈ d.nextWave seen frontier) : id ∉ seen ∧ ∃ e ∈ d.edges, e.target = id := by
  simp only [nextWave, List.mem_eraseDups, List.mem_filter, List.mem_flatMap, successors,
    List.mem_map, List.mem_filterMap, edge?] at h
  obtain ⟨⟨_, _, e, ⟨_, _, he⟩, rfl⟩, hn⟩ := h
  exact ⟨by simpa using hn, e, List.mem_of_getElem? he, rfl⟩

/-- The edges whose target has not been seen. -/
def unseenTargets (d : Dataset) (seen : List NodeId) : Nat :=
  d.edges.countP fun e => e.target ∉ seen

/-- Seeing the target of an edge leaves fewer edges with an unseen one. -/
theorem unseenTargets_append_lt {d : Dataset} {seen next : List NodeId} {id : NodeId}
    (hid : id ∈ next) (hn : id ∉ seen) (he : ∃ e ∈ d.edges, e.target = id) :
    d.unseenTargets (seen ++ next) < d.unseenTargets seen := by
  obtain ⟨e, he, rfl⟩ := he
  unfold unseenTargets
  obtain ⟨before, behind, hes⟩ := List.append_of_mem he
  have mono (es : List Edge) : (es.countP fun e => e.target ∉ seen ++ next) ≤
      es.countP fun e => e.target ∉ seen :=
    List.countP_mono_left fun x _ => by simp_all
  have h1 := mono before
  have h2 := mono behind
  simp only [List.mem_append] at h1 h2
  simp only [hes, List.countP_append, List.countP_cons]
  simp only [hn, hid, List.mem_append, or_true, not_true_eq_false, not_false_eq_true,
    decide_true, decide_false, if_true, Bool.false_eq_true, if_false]
  omega

/-- The waves from a frontier on, all of whose indices have been seen. -/
def wavesFrom (d : Dataset) (seen frontier : List NodeId) : List (List NodeId) :=
  match _h : d.nextWave seen frontier with
  | [] => [frontier]
  | first :: more => frontier :: d.wavesFrom (seen ++ first :: more) (first :: more)
termination_by d.unseenTargets seen
decreasing_by
  have hm : first ∈ d.nextWave seen frontier := by simp [_h]
  obtain ⟨hn, he⟩ := mem_nextWave hm
  exact unseenTargets_append_lt (by simp) hn he

/-- The waves from the first node in step order. -/
def waves (d : Dataset) : List (List NodeId) :=
  match d.nodes with
  | [] => []
  | root :: _ => d.wavesFrom [root.index] [root.index]

/-- The row of an index among some waves: that of its wave, or the one below all waves for a node
that no wave holds.  An index without wave and node has no row. -/
def rowAmong (waves : List (List NodeId)) (nodes : List Node) (id : NodeId) : Option Nat :=
  match waves.findIdx? (·.contains id) with
  | some k => some k
  | none => if nodes.any (·.index == id) then some waves.length else none

/-- The row of an index. -/
def rowOf? (d : Dataset) (id : NodeId) : Option Nat := rowAmong d.waves d.nodes id

/-- The rows of the nodes, in step order. -/
def rows (d : Dataset) : List Nat :=
  let waves := d.waves
  d.nodes.map fun n => (rowAmong waves d.nodes n.index).getD 0

end Dataset

end Retrace
