import Retrace.Proofs.Scene.Distances

/-!
The rows of the picture, found with a queue.

The rows can be found by a single loop as well.  Indices wait in a queue with their depths; the
first one is taken out, and each target of its edges that has no depth yet is given the next one and
waits in its turn.  The nodes that are left without a depth stand one below the greatest.

* `Search.meet`, `Search.next?`: one target, and one index of the queue; `Search.pending` gets
  smaller with each (`Search.pending_next?_lt`), so that `Search.run` ends;
* `Dataset.depths`: the depths of all indices;
* `Search.within`: a search that has taken a part of a wave out of the queue; `Search.next?_within`
  takes out one index, `Search.run_wave` a whole wave;
* `Search.run_eq`: the loop finds the waves, each at its depth;
* `Dataset.lookup_depths`: the depths are the rows.
-/

namespace Retrace

/-! ### The loop -/

/-- A search with a queue. -/
structure Search where
  /-- The indices that wait, with their depths. -/
  queue : List (NodeId × Nat)
  /-- The depths of the indices that have been found. -/
  found : List (NodeId × Nat)

namespace Search

/-- The target of an edge from an index of the given depth: unless it has been found before, it is
found one below, and waits. -/
def meet (depth : Nat) (s : Search) (target : NodeId) : Search :=
  if (s.found.lookup target).isSome then s
  else ⟨s.queue ++ [(target, depth + 1)], s.found ++ [(target, depth + 1)]⟩

/-- The first index that waits is taken out, and the targets of its edges are met. -/
def next? (d : Dataset) (s : Search) : Option Search :=
  match s.queue with
  | [] => none
  | (id, depth) :: queue => some ((d.successors id).foldl (meet depth) { s with queue })

/-- The indices that have been found. -/
def seen (s : Search) : List NodeId := s.found.map (·.1)

/-- How many indices wait and how many edges have a target that has not been found. -/
def pending (d : Dataset) (s : Search) : Nat := s.queue.length + d.unseenTargets s.seen

variable {d : Dataset} {s : Search}

lemma isSome_lookup_iff {found : List (NodeId × Nat)} {id : NodeId} :
    (found.lookup id).isSome ↔ id ∈ found.map (·.1) := by
  rw [List.lookup_isSome_iff, List.mem_map]
  exact exists_congr fun x => and_congr_right fun _ => by rw [beq_iff_eq, eq_comm]

/-- What is met for the first time waits, but it is no longer to be found. -/
lemma pending_meet_le (depth : Nat) {target : NodeId} (h : ∃ e ∈ d.edges, e.target = target) :
    (s.meet depth target).pending d ≤ s.pending d := by
  rw [meet]
  split
  · exact Nat.le_refl _
  · case _ hnew =>
      rw [isSome_lookup_iff] at hnew
      have hfewer := d.unseenTargets_append_lt (List.mem_singleton_self target) hnew h
      simp only [pending, seen, List.length_append, List.map_append, List.map_singleton,
        List.length_singleton]
      omega

lemma pending_foldl_meet_le (depth : Nat) {targets : List NodeId}
    (h : ∀ target ∈ targets, ∃ e ∈ d.edges, e.target = target) :
    (targets.foldl (meet depth) s).pending d ≤ s.pending d := by
  induction targets generalizing s with
  | nil => exact Nat.le_refl _
  | cons target targets ih =>
      rw [List.foldl_cons]
      exact (ih fun t ht => h t (List.mem_cons_of_mem _ ht)).trans
        (pending_meet_le depth (h target List.mem_cons_self))

/-- A successor is the target of an edge. -/
lemma exists_edge_of_mem_successors {id target : NodeId} (h : target ∈ d.successors id) :
    ∃ e ∈ d.edges, e.target = target := by
  simp only [Dataset.successors, List.mem_map, List.mem_filterMap, Dataset.edge?] at h
  obtain ⟨e, ⟨place, -, he⟩, htarget⟩ := h
  exact ⟨e, List.mem_of_getElem? he, htarget⟩

lemma pending_next?_lt {after : Search} (h : s.next? d = some after) :
    after.pending d < s.pending d := by
  obtain ⟨queue, found⟩ := s
  cases queue with
  | nil => cases h
  | cons first queue =>
      obtain ⟨id, depth⟩ := first
      cases h
      have hle := pending_foldl_meet_le (s := ⟨queue, found⟩) depth
        fun target (htarget : target ∈ d.successors id) => exists_edge_of_mem_successors htarget
      exact Nat.lt_of_le_of_lt hle (Nat.add_lt_add_right (Nat.lt_succ_self _) _)

/-- The depths that are found until nothing waits. -/
def run (d : Dataset) (s : Search) : List (NodeId × Nat) :=
  match _h : s.next? d with
  | none => s.found
  | some after => run d after
termination_by s.pending d
decreasing_by exact pending_next?_lt _h

end Search

/-- A node that has no depth yet is given one. -/
def Search.settle (below : Nat) (depths : List (NodeId × Nat)) (n : Node) : List (NodeId × Nat) :=
  if (depths.lookup n.index).isSome then depths else depths ++ [(n.index, below)]

/-- The depths of all indices: those that the search from the first node in step order finds, and
one below the greatest for the nodes that it does not find. -/
def Dataset.depths (d : Dataset) : List (NodeId × Nat) :=
  match d.nodes with
  | [] => []
  | root :: _ =>
    let found := Search.run d ⟨[(root.index, 0)], [(root.index, 0)]⟩
    let below := ((found.map (·.2)).max?.map (· + 1)).getD 0
    d.nodes.foldl (Search.settle below) found

/-- The first wave is the frontier. -/
lemma Dataset.wavesFrom_eq_cons (d : Dataset) (seen frontier : List NodeId) :
    d.wavesFrom seen frontier = frontier :: (d.wavesFrom seen frontier).tail := by
  fun_cases Dataset.wavesFrom d seen frontier <;> rfl

namespace Search

variable {d : Dataset} {found : List (NodeId × Nat)} {depth : Nat} {frontier met : List NodeId}

lemma run_of_next?_eq_none {s : Search} (h : s.next? d = none) : run d s = s.found := by
  rw [run]
  split
  · rfl
  · case _ hnext =>
      rw [h] at hnext
      cases hnext

lemma run_of_next?_eq_some {s after : Search} (h : s.next? d = some after) :
    run d s = run d after := by
  rw [run]
  split
  · case _ hnext =>
      rw [h] at hnext
      cases hnext
  · case _ hnext => rw [Option.some.inj (hnext.symm.trans h)]

/-! ### Waves -/

/-- The indices that are found when some targets are met. -/
def fresh (found : List (NodeId × Nat)) (met : List NodeId) : List NodeId :=
  (met.filter fun id => id ∉ found.map (·.1)).eraseDups

lemma fresh_of_mem {target : NodeId} (h : target ∈ found.map (·.1) ∨ target ∈ met) :
    fresh found (met ++ [target]) = fresh found met := by
  rw [fresh, List.filter_append, List.eraseDups_append]
  by_cases hfound : target ∈ found.map (·.1)
  · simp [fresh, hfound]
  · have hmet := h.resolve_left hfound
    simp [fresh, hfound, hmet, List.removeAll]

lemma fresh_of_not_mem {target : NodeId} (hfound : target ∉ found.map (·.1))
    (hmet : target ∉ met) : fresh found (met ++ [target]) = fresh found met ++ [target] := by
  rw [fresh, List.filter_append, List.eraseDups_append]
  simp [fresh, hfound, hmet, List.removeAll, List.eraseDups_cons]

/-- A search in a wave: some indices of the wave wait, and others have met the given targets. -/
def within (found : List (NodeId × Nat)) (depth : Nat) (frontier met : List NodeId) : Search :=
  let next := (fresh found met).map fun id => (id, depth + 1)
  ⟨frontier.map (fun id => (id, depth)) ++ next, found ++ next⟩

lemma seen_within :
    (within found depth frontier met).seen = found.map (·.1) ++ fresh found met := by
  simp [seen, within, Function.comp_def]

lemma meet_within (target : NodeId) : (within found depth frontier met).meet depth target
    = within found depth frontier (met ++ [target]) := by
  have hseen : ((within found depth frontier met).found.lookup target).isSome
      ↔ target ∈ found.map (·.1) ∨ target ∈ met := by
    rw [isSome_lookup_iff, ← seen, seen_within, List.mem_append, fresh, List.mem_eraseDups,
      List.mem_filter, decide_eq_true_eq]
    tauto
  rw [meet]
  by_cases h : target ∈ found.map (·.1) ∨ target ∈ met
  · rw [if_pos (hseen.2 h), within, within, fresh_of_mem h]
  · obtain ⟨hfound, hmet⟩ := not_or.1 h
    rw [if_neg (mt hseen.1 h), within, within, fresh_of_not_mem hfound hmet]
    simp

/-- The first index of a wave is taken out of the queue. -/
lemma next?_within (id : NodeId) : (within found depth (id :: frontier) met).next? d
    = some (within found depth frontier (met ++ d.successors id)) := by
  have hmeet : ∀ targets met, targets.foldl (meet depth) (within found depth frontier met)
      = within found depth frontier (met ++ targets) := by
    intro targets
    induction targets with
    | nil => exact fun met => by rw [List.append_nil]; rfl
    | cons target targets ih =>
        intro met
        rw [List.foldl_cons, meet_within, ih, List.append_assoc, List.singleton_append]
  exact congrArg some (hmeet _ met)

/-- All of a wave is taken out of the queue, and then the next wave waits, one below. -/
lemma run_wave (d : Dataset) (found : List (NodeId × Nat)) (depth : Nat) (frontier : List NodeId) :
    run d ⟨frontier.map fun id => (id, depth), found⟩
      = run d ⟨(d.nextWave (found.map (·.1)) frontier).map fun id => (id, depth + 1),
        found ++ (d.nextWave (found.map (·.1)) frontier).map fun id => (id, depth + 1)⟩ := by
  have hwithin : ∀ frontier met, run d (within found depth frontier met)
      = run d (within found depth [] (met ++ frontier.flatMap d.successors)) := by
    intro frontier
    induction frontier with
    | nil => exact fun met => by rw [List.flatMap_nil, List.append_nil]
    | cons id frontier ih =>
        intro met
        rw [run_of_next?_eq_some (next?_within id), ih, List.flatMap_cons, List.append_assoc]
  have hstart : within found depth frontier [] = ⟨frontier.map fun id => (id, depth), found⟩ := by
    simp [within, fresh]
  rw [← hstart, hwithin, List.nil_append]
  rfl

/-- Waves at their depths, the first one at the given depth. -/
def levels (depth : Nat) : List (List NodeId) → List (NodeId × Nat)
  | [] => []
  | wave :: waves => wave.map (fun id => (id, depth)) ++ levels (depth + 1) waves

/-- **The loop finds the waves**, each at its depth. -/
lemma run_eq (d : Dataset) (found : List (NodeId × Nat)) (depth : Nat) (frontier : List NodeId) :
    run d ⟨frontier.map fun id => (id, depth), found⟩
      = found ++ levels (depth + 1) (d.wavesFrom (found.map (·.1)) frontier).tail := by
  generalize hseen : found.map (·.1) = seen
  fun_induction Dataset.wavesFrom d seen frontier generalizing found depth with
  | case1 seen frontier hnext =>
      rw [run_wave, hseen, hnext]
      exact run_of_next?_eq_none rfl
  | case2 seen frontier first more hnext ih =>
      have hfound : (found ++ (first :: more).map fun id => (id, depth + 1)).map (·.1)
          = seen ++ first :: more := by
        rw [List.map_append, hseen, List.map_map]
        exact congrArg (seen ++ ·) (List.map_id _)
      rw [run_wave, hseen, hnext, ih _ _ hfound, List.tail_cons,
        d.wavesFrom_eq_cons _ (first :: more), List.append_assoc]
      rfl

/-! ### Levels -/

variable {id : NodeId}

lemma lookup_map (wave : List NodeId) (depth : Nat) :
    (wave.map fun id => (id, depth)).lookup id = if id ∈ wave then some depth else none := by
  induction wave with
  | nil => rfl
  | cons first wave ih =>
      by_cases h : id = first
      · simp [h]
      · simp [List.lookup_cons, beq_false_of_ne h, h, ih]

lemma lookup_levels (depth : Nat) (waves : List (List NodeId)) :
    (levels depth waves).lookup id = (waves.findIdx? (·.contains id)).map (· + depth) := by
  induction waves generalizing depth with
  | nil => rfl
  | cons wave waves ih =>
      rw [levels, List.lookup_append, lookup_map, ih, List.findIdx?_cons]
      by_cases h : id ∈ wave
      · simp [h]
      · simp [h, Function.comp_def, Nat.add_comm, Nat.add_left_comm]

/-- The depths are those of the waves, none of which is empty. -/
lemma mem_depths_levels_iff {k : Nat} (depth : Nat) {waves : List (List NodeId)}
    (h : ∀ wave ∈ waves, wave ≠ []) :
    k ∈ (levels depth waves).map (·.2) ↔ depth ≤ k ∧ k < depth + waves.length := by
  induction waves generalizing depth with
  | nil => simp [levels]
  | cons wave waves ih =>
      obtain ⟨hwave, hwaves⟩ := List.forall_mem_cons.1 h
      have hfirst : k ∈ (wave.map fun id => (id, depth)).map (·.2) ↔ k = depth := by
        simp [List.exists_mem_of_ne_nil wave hwave, eq_comm]
      rw [levels, List.map_append, List.mem_append, hfirst, ih (depth + 1) hwaves, List.length_cons]
      omega

/-- Below the greatest depth there is room behind the last wave. -/
lemma max?_levels {waves : List (List NodeId)} (hne : waves ≠ [])
    (h : ∀ wave ∈ waves, wave ≠ []) :
    (((levels 0 waves).map (·.2)).max?.map (· + 1)).getD 0 = waves.length := by
  have hpos := List.length_pos_iff.2 hne
  have hmax : ((levels 0 waves).map (·.2)).max? = some (waves.length - 1) := by
    rw [List.max?_eq_some_iff]
    refine ⟨(mem_depths_levels_iff 0 h).2 (by omega), fun k hk => ?_⟩
    have := (mem_depths_levels_iff 0 h).1 hk
    omega
  rw [hmax, Option.map_some, Option.getD_some]
  omega

/-- The nodes without a depth are given one, and nothing else changes. -/
lemma lookup_foldl_settle (below : Nat) (nodes : List Node) (depths : List (NodeId × Nat)) :
    (nodes.foldl (settle below) depths).lookup id
      = (depths.lookup id).or (if nodes.any (·.index == id) then some below else none) := by
  induction nodes generalizing depths with
  | nil => simp
  | cons n nodes ih =>
      have hsettle : (settle below depths n).lookup id
          = (depths.lookup id).or (if n.index == id then some below else none) := by
        rw [settle]
        by_cases h : n.index = id
        · cases hid : depths.lookup id <;> simp [h, hid, List.lookup_append]
        · have hne : (id == n.index) = false := beq_false_of_ne (Ne.symm h)
          split <;> simp [h, hne, List.lookup_append, List.lookup_cons]
      rw [List.foldl_cons, ih, hsettle, Option.or_assoc, List.any_cons]
      by_cases h : n.index = id <;> simp [h]

end Search

namespace Dataset

variable {d : Dataset}

lemma waves_eq_cons {root : Node} {more : List Node} (hroot : d.nodes = root :: more) :
    d.waves = [root.index] :: (d.wavesFrom [root.index] [root.index]).tail := by
  rw [waves, hroot]
  exact d.wavesFrom_eq_cons _ _

/-- What the search from the first node finds. -/
lemma run_root {root : Node} {more : List Node} (hroot : d.nodes = root :: more) :
    Search.run d ⟨[(root.index, 0)], [(root.index, 0)]⟩ = Search.levels 0 d.waves := by
  rw [waves_eq_cons hroot]
  exact Search.run_eq d [(root.index, 0)] 0 [root.index]

/-- **The depths are the rows.**  The loop ends, and then each index that has a row has it for its
depth, and no other index has a depth. -/
theorem lookup_depths (d : Dataset) (id : NodeId) : d.depths.lookup id = d.rowOf? id := by
  rw [rowOf?, rowAmong, depths]
  cases hnodes : d.nodes with
  | nil => simp [waves, hnodes]
  | cons root more =>
      have hsome : d.waves ≠ [] := by
        rw [waves_eq_cons hnodes]
        exact List.cons_ne_nil _ _
      have hne : ∀ wave ∈ d.waves, wave ≠ [] := by
        rw [waves, hnodes]
        exact ne_nil_of_mem_wavesFrom (List.cons_ne_nil _ _)
      dsimp only
      rw [Search.lookup_foldl_settle, run_root hnodes, Search.lookup_levels,
        Search.max?_levels hsome hne]
      cases d.waves.findIdx? (·.contains id) <;> simp

end Dataset

end Retrace
