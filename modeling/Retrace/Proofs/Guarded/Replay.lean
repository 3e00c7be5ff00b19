import Retrace.Proofs.Graph.Incidence
import Retrace.Proofs.Guarded.Checks
import Retrace.Proofs.Replay.Liveness
import Retrace.Proofs.Replay.WellFormed

/-!
The replay, with every access and every sum checked.

The walk takes a part of the nodes, changes edges at the places that the buckets of the adjacency
and the stamps name, and adds one to the last start; a step forward adds one to the current step.

* `Guarded.visit`, `Guarded.visualAt`, `Guarded.act`, `Guarded.run`: the checked replay;
* `Dataset.Safe`: what the checks rely on; `Dataset.safe_ofGraph`: every graph in memory has it
  whose last start is not the greatest number;
* `Walk.InBounds`: the invariant of the walk; `Guarded.visit_eq` keeps it;
* `Guarded.visualAt_eq`, `Guarded.run_eq`: no check fails, and the checked replay is the replay.
-/

namespace Retrace

namespace Guarded

/-! ### The checked replay -/

/-- The index at which the edges of a node expire. -/
def stopOf (d : Dataset) (n : Node) : Except Panic Int :=
  match n.intervalStop with
  | some stop => if stop = 0 then increment d.maxInterval else .ok stop.toInt
  | none => increment d.maxInterval

/-- Applies a change to the edges at the given places. -/
def changeEdges (change : Liveness → Liveness) (ids : List EdgeId) (edges : List Liveness) :
    Except Panic (List Liveness) :=
  ids.foldlM (modify change) edges

/-- The visit of a node that is reached. -/
def reach (d : Dataset) (w : Walk) (n : Node) : Except Panic Walk := do
  let stop ← stopOf d n
  let outgoing := d.outgoing n.index
  let incoming := d.incoming n.index
  let stamps := w.stamps ++ outgoing.map (stop, ·) ++ incoming.map (stop, ·)
  let edges ← changeEdges .wakeSource outgoing w.visual.edges
  let edges ← changeEdges .wakeTarget incoming edges
  let edges ← changeEdges (fun _ => .dead) (Walk.expiring stamps n.index) edges
  let lastLine := (Walk.firstLine d incoming).or w.lastLine
  let entered := (incoming.head?.bind d.edge?).isSome
  return {
    visual := { w.visual with
      shownNodes := w.visual.shownNodes.insert n.index
      edges
      mergeColored := Walk.recolor n w.visual.mergeColored
      markedLine := (if entered then lastLine else none).or (Walk.mergeLine d n) }
    stamps
    lastLine }

/-- The visit of a node. -/
def visit (d : Dataset) (w : Walk) (n : Node) : Except Panic Walk :=
  if n.intervalStart < 0 then .ok (w.enter n) else reach d (w.enter n) n

/-- The walk over the nodes up to a step. -/
def upTo (d : Dataset) (step : Nat) : Except Panic Walk := do
  let nodes ← prefixTo d.nodes step
  nodes.foldlM (visit d) (Walk.start d step)

/-- What a step shows. -/
def visualAt (d : Dataset) (step : Nat) : Except Panic Visual :=
  match d.maxStep? with
  | none => .ok (.blank d.edges.length)
  | some last =>
    if step ≤ last then do
      let w ← upTo d step
      return w.visual
    else do
      let w ← upTo d last
      match d.nodeAt? last with
      | some n => return { w.visual with mergeColored := w.visual.mergeColored.erase n.index }
      | none => return w.visual

/-- Moves to a step, or to the last one if the step lies past it. -/
def advanceTo (e : Engine) (step : Nat) : Except Panic Engine := do
  let v ← visualAt e.dataset step
  return { e with current := min step e.maxStep, visual := v }

/-- Performs an action. -/
def act (e : Engine) : Action → Except Panic Engine
  | .advanceTo step => advanceTo e step
  | .reset => advanceTo e 0
  | .stepForward => do
    let step ← next e.current
    advanceTo e (min step e.maxStep)
  | .stepBack => advanceTo e (e.current - 1)
  | .showFull .replay => do
    let v ← visualAt e.dataset e.maxStep
    return { e with current := e.maxStep, visual := { v with mergeColored := ∅ } }
  | .showFull .revealAll => return { e with current := e.maxStep, visual := e.revealed }

/-- Performs actions one after the other. -/
def run (e : Engine) (actions : List Action) : Except Panic Engine := actions.foldlM act e

end Guarded

/-! ### What the checks rely on -/

/-- The buckets name edges that are there, and the last start and the numbers of nodes and edges
leave room for one more. -/
structure Dataset.Safe (d : Dataset) : Prop where
  outgoing : ∀ i, ∀ id ∈ d.outgoing i, id < d.edges.length
  incoming : ∀ i, ∀ id ∈ d.incoming i, id < d.edges.length
  start : d.maxInterval ≠ Int64.maxValue
  nodes : d.nodes.length + 1 < USize.size
  edges : d.edges.length + 1 < USize.size

/-- The greater of two numbers is one of them. -/
instance maxEqOr_int64 : Std.MaxEqOr Int64 where
  max_eq_or a b := by
    have hmax : max a b = if a ≤ b then b else a := rfl
    rw [hmax]
    split
    · exact .inr rfl
    · exact .inl rfl

/-- The last start is that of a node, or zero. -/
lemma Dataset.lastStart_ne_maxValue {nodes : List Node}
    (h : ∀ n ∈ nodes, n.intervalStart ≠ Int64.maxValue) : lastStart nodes ≠ Int64.maxValue := by
  rw [lastStart]
  cases hmax : (nodes.map (·.intervalStart)).max? with
  | none => decide
  | some start =>
      obtain ⟨n, hn, rfl⟩ := List.mem_map.1 (List.max?_mem hmax)
      exact h n hn

lemma Dataset.safe_ofGraph {g : Graph} (hmem : g.InMemory)
    (hstart : ∀ n ∈ g.nodes, n.intervalStart ≠ Int64.maxValue) : (ofGraph g).Safe where
  outgoing i id hid := by
    obtain ⟨e, he, -⟩ := mem_outgoing.1 hid
    exact (List.getElem?_eq_some_iff.1 he).1
  incoming i id hid := by
    obtain ⟨e, he, -⟩ := mem_incoming.1 hid
    exact (List.getElem?_eq_some_iff.1 he).1
  start := lastStart_ne_maxValue fun n hn => hstart n (List.mem_mergeSort.1 hn)
  nodes := by
    have hlength : (ofGraph g).nodes.length = g.nodes.length := List.length_mergeSort _
    have hnodes := hmem.nodes
    have hsize := USize.le_size
    omega
  edges := by
    have hlength : (ofGraph g).edges.length = g.edges.length := rfl
    have hedges := hmem.edges
    have hsize := USize.le_size
    omega

/-- The walk holds as many edges as the dataset, and its stamps name edges that are there. -/
structure Walk.InBounds (d : Dataset) (w : Walk) : Prop where
  edges : w.visual.edges.length = d.edges.length
  stamps : ∀ x ∈ w.stamps, x.2 < d.edges.length

lemma Walk.inBounds_start (d : Dataset) (step : Nat) : (start d step).InBounds d where
  edges := List.length_replicate
  stamps x hx := by cases hx

namespace Guarded

/-! ### No check fails -/

variable {d : Dataset} {w : Walk} {n : Node}

lemma stopOf_eq (hd : d.Safe) (n : Node) : stopOf d n = .ok (d.stopOf n) := by
  have hincrement := increment_eq hd.start
  rw [stopOf, Dataset.stopOf]
  cases n.intervalStop with
  | none => exact hincrement
  | some stop =>
      by_cases h : stop = 0
      · simp only [if_pos h]
        exact hincrement
      · simp only [if_neg h]

lemma changeEdges_eq (change : Liveness → Liveness) {ids : List EdgeId} {edges : List Liveness}
    (h : ∀ id ∈ ids, id < edges.length) :
    changeEdges change ids edges = .ok (Walk.changeEdges change ids edges) := by
  refine (foldlM_eq_ok (fun es => es.length = edges.length) ?_ rfl).1
  intro es hes id hid
  exact ⟨if_pos (hes ▸ h id hid), (List.length_modify ..).trans hes⟩

/-- The stamps that a reached node adds name edges that are there. -/
lemma stamps_reach (hd : d.Safe) (hw : w.InBounds d) (n : Node) :
    ∀ x ∈ (Walk.reach d w n).stamps, x.2 < d.edges.length := by
  intro x hx
  rcases List.mem_append.1 hx with hx | hx
  · rcases List.mem_append.1 hx with hx | hx
    · exact hw.stamps x hx
    · obtain ⟨id, hid, rfl⟩ := List.mem_map.1 hx
      exact hd.outgoing n.index id hid
  · obtain ⟨id, hid, rfl⟩ := List.mem_map.1 hx
    exact hd.incoming n.index id hid

lemma reach_eq (hd : d.Safe) (hw : w.InBounds d) (n : Node) :
    reach d w n = .ok (Walk.reach d w n) ∧ (Walk.reach d w n).InBounds d := by
  have hstamps := stamps_reach hd hw n
  have hexpiring : ∀ id ∈ Walk.expiring (Walk.reach d w n).stamps n.index, id < d.edges.length :=
    fun _ hid => hstamps _ (Walk.mem_expiring.1 hid)
  -- changing edges does not change how many there are
  have hlength : ∀ change ids, ∀ {edges : List Liveness}, edges.length = d.edges.length →
      (Walk.changeEdges change ids edges).length = d.edges.length :=
    fun change ids _ hedges => (Walk.length_changeEdges change ids _).trans hedges
  have hsource := hlength .wakeSource (d.outgoing n.index) hw.edges
  have htarget := hlength .wakeTarget (d.incoming n.index) hsource
  constructor
  · rw [reach, stopOf_eq hd]
    simp only [bind, Except.bind]
    rw [changeEdges_eq _ fun id hid => hw.edges ▸ hd.outgoing n.index id hid]
    dsimp only
    rw [changeEdges_eq _ fun id hid => hsource ▸ hd.incoming n.index id hid]
    dsimp only
    rw [changeEdges_eq _ fun id hid => htarget ▸ hexpiring id hid]
    rfl
  · exact ⟨hlength _ _ htarget, hstamps⟩

lemma visit_eq (hd : d.Safe) (hw : w.InBounds d) (n : Node) :
    visit d w n = .ok (Walk.visit d w n) ∧ (Walk.visit d w n).InBounds d := by
  have henter : (w.enter n).InBounds d := ⟨hw.edges, hw.stamps⟩
  by_cases h : n.intervalStart < 0
  · rw [visit, if_pos h, Walk.visit_of_neg h]
    exact ⟨rfl, henter⟩
  · rw [visit, if_neg h, Walk.visit_of_nonneg (Int64.not_lt.1 h)]
    exact reach_eq hd henter n

lemma upTo_eq (hd : d.Safe) {step : Nat} (hstep : step < d.nodes.length) :
    upTo d step = .ok (Walk.upTo d step) := by
  have hprefix : prefixTo d.nodes step = .ok (d.nodes.take (step + 1)) := if_pos hstep
  rw [upTo, hprefix]
  exact (foldlM_eq_ok (Walk.InBounds d) (fun w hw n _ => visit_eq hd hw n)
    (Walk.inBounds_start d step)).1

/-- **No access of the walk is out of bounds, and no stop overflows**, whatever the step. -/
theorem visualAt_eq (hd : d.Safe) (step : Nat) : visualAt d step = .ok (d.visualAt step) := by
  rw [visualAt, Dataset.visualAt]
  cases hlast : d.maxStep? with
  | none => rfl
  | some last =>
      have hlength := Dataset.maxStep?_eq_some_iff.1 hlast
      by_cases hle : step ≤ last
      · have hwalk := upTo_eq hd (show step < d.nodes.length by omega)
        simp only [if_pos hle, hwalk]
        rfl
      · have hwalk := upTo_eq hd (show last < d.nodes.length by omega)
        simp only [if_neg hle, hwalk]
        simp only [bind, Except.bind]
        cases d.nodeAt? last <;> rfl

-- a last start that leaves no room for the default stop
example : visualAt (.ofGraph ⟨[⟨0, "", .plain, Int64.maxValue, none, false⟩], []⟩) 0
    = .error .overflow := by
  cbv

lemma advanceTo_eq {e : Engine} (hd : e.dataset.Safe) (step : Nat) :
    advanceTo e step = .ok (e.advanceTo step).engine := by
  rw [advanceTo, visualAt_eq hd]
  rfl

/-- The current step is that of a node, so there is room for the next one. -/
lemma next_current {e : Engine} (hd : e.dataset.Safe) (he : e.current ≤ e.maxStep) :
    next e.current = .ok (e.current + 1) := by
  have hmax : e.maxStep ≤ e.dataset.nodes.length := by
    rw [Engine.maxStep]
    cases hlast : e.dataset.maxStep? with
    | none => exact Nat.zero_le _
    | some last =>
        have hlength := Dataset.maxStep?_eq_some_iff.1 hlast
        rw [Option.getD_some]
        omega
  have hnodes := hd.nodes
  exact next_eq (by omega)

lemma act_eq {e : Engine} (hd : e.dataset.Safe) (he : e.current ≤ e.maxStep) (a : Action) :
    act e a = .ok (e.act a).engine := by
  cases a with
  | advanceTo step => exact advanceTo_eq hd step
  | reset => exact advanceTo_eq hd 0
  | stepForward =>
      rw [act, next_current hd he]
      exact advanceTo_eq hd _
  | stepBack => exact advanceTo_eq hd _
  | showFull mode =>
      cases mode with
      | replay =>
          rw [act, visualAt_eq hd]
          rfl
      | revealAll => rfl

/-- **No action of a run panics**, and the checked run ends where the run does. -/
theorem run_eq {e : Engine} (hd : e.dataset.Safe) (he : e.current ≤ e.maxStep)
    (actions : List Action) : run e actions = .ok (e.run actions) := by
  refine (foldlM_eq_ok (fun e => e.dataset.Safe ∧ e.current ≤ e.maxStep) ?_ ⟨hd, he⟩).1
  rintro e ⟨hd, he⟩ a -
  refine ⟨act_eq hd he a, ?_, ?_⟩
  · rw [Engine.dataset_act]
    exact hd
  · rw [Engine.maxStep_act]
    exact Engine.current_act_le e a

end Guarded

end Retrace
