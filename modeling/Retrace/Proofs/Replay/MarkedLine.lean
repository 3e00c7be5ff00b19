import Mathlib.Data.List.Permutation
import Retrace.Proofs.Graph.Incidence
import Retrace.Proofs.Replay.Prefix

/-!
Which source line a step marks.

Every visit drops the mark and sets it anew, from the edges at the node and from one line that the
walk remembers: that of the last reached node with a line on its first incoming edge.

* `lastLine_visit`, `markedLine_visit`: what a visit makes of the remembered line and of the mark;
  neither looks at stamps, liveness, highlights or the mark before;
* `Recalls`: the line that is remembered at a place, read off the nodes before it;
* `Marks`: the rules of the mark;
* `markedLine_visualAt_iff`: a step marks a line iff the rules give it.
-/

namespace Retrace

/-! ### The edges at a node -/

namespace Dataset

/-- The first edge into a node, in edge order. -/
def firstInto (d : Dataset) (n : Node) : Option Edge := d.edges.find? fun e => n.index = e.target

/-- The first edge out of a node, in edge order. -/
def firstOutOf (d : Dataset) (n : Node) : Option Edge := d.edges.find? fun e => n.index = e.source

/-- The line of the first edge into a node, if there is such an edge and it has a line. -/
def entryLine (d : Dataset) (n : Node) : Option UInt32 := (d.firstInto n).bind Edge.lineNumber

/-- The line of the first edge out of a merged node, if there is such an edge and it has a line. -/
def mergedLine (d : Dataset) (n : Node) : Option UInt32 :=
  if n.kind = .merged then (d.firstOutOf n).bind Edge.lineNumber else none

end Dataset

namespace Walk

variable {g : Graph}

lemma firstLine_incoming (n : Node) :
    firstLine (.ofGraph g) ((Dataset.ofGraph g).incoming n.index)
      = (Dataset.ofGraph g).entryLine n := by
  rw [firstLine, Dataset.firstIncoming_eq]
  rfl

lemma mergeLine_eq (n : Node) : mergeLine (.ofGraph g) n = (Dataset.ofGraph g).mergedLine n := by
  rw [mergeLine, firstLine, Dataset.firstOutgoing_eq]
  rfl

/-! ### The mark of a visit -/

/-- A reached node with a line on its first incoming edge is remembered. -/
lemma lastLine_visit (w : Walk) (n : Node) :
    (visit (.ofGraph g) w n).lastLine
      = if n.intervalStart < 0 then w.lastLine
        else ((Dataset.ofGraph g).entryLine n).or w.lastLine := by
  by_cases hneg : n.intervalStart < 0
  · rw [visit_of_neg hneg, if_pos hneg]
    rfl
  · rw [visit_of_nonneg (Int64.not_lt.1 hneg), if_neg hneg, ← firstLine_incoming]
    rfl

/-- A reached node marks the line of its first incoming edge, or the remembered one if that edge has
none; failing these it marks the line of the merge that it stands for. -/
lemma markedLine_visit (w : Walk) (n : Node) :
    (visit (.ofGraph g) w n).visual.markedLine
      = if n.intervalStart < 0 then none
        else
          (if ((Dataset.ofGraph g).firstInto n).isSome
            then ((Dataset.ofGraph g).entryLine n).or w.lastLine else none).or
            ((Dataset.ofGraph g).mergedLine n) := by
  by_cases hneg : n.intervalStart < 0
  · rw [visit_of_neg hneg, if_pos hneg]
    rfl
  · have hfirst : ((Dataset.ofGraph g).incoming n.index).head?.bind (Dataset.ofGraph g).edge?
        = (Dataset.ofGraph g).firstInto n := Dataset.firstIncoming_eq g n.index
    rw [visit_of_nonneg (Int64.not_lt.1 hneg), if_neg hneg, ← firstLine_incoming, ← mergeLine_eq,
      ← hfirst]
    rfl

end Walk

/-! ### The remembered line -/

namespace Dataset

variable {d : Dataset} {k : Nat} {line : UInt32}

/-- The line remembered at a place: that of the greatest place before it whose node is reached and
has a line on its first incoming edge. -/
def Recalls (d : Dataset) (k : Nat) (line : UInt32) : Prop :=
  ∃ p < k, (∃ m, d.ReachedAt p m ∧ d.entryLine m = some line)
    ∧ ∀ q m, p < q → q < k → d.ReachedAt q m → d.entryLine m = none

lemma recalls_iff_since :
    d.Recalls k line ↔ Since (fun p => ∃ m, d.ReachedAt p m ∧ d.entryLine m = some line)
      (fun q => ∀ m, d.ReachedAt q m → d.entryLine m = none) k := by
  constructor
  · rintro ⟨p, hp, hentry, hsince⟩
    exact ⟨p, hp, hentry, fun q hpq hqk m => hsince q m hpq hqk⟩
  · rintro ⟨p, hp, hentry, hsince⟩
    exact ⟨p, hp, hentry, fun q m hpq hqk => hsince q hpq hqk m⟩

lemma not_recalls_zero : ¬ d.Recalls 0 line := by
  rw [recalls_iff_since]
  exact not_since_zero

/-- A reached node with such a line replaces the remembered one, and any other leaves it alone. -/
lemma recalls_succ {n : Node} (hn : d.ReachedAt k n) :
    d.Recalls (k + 1) line
      ↔ d.entryLine n = some line ∨ (d.Recalls k line ∧ d.entryLine n = none) := by
  rw [recalls_iff_since, since_succ, hn.exists_iff, hn.forall_iff, ← recalls_iff_since]

/-- Where no node is reached the remembered line stays. -/
lemma recalls_succ_of_not (hk : ∀ m, ¬ d.ReachedAt k m) :
    d.Recalls (k + 1) line ↔ d.Recalls k line := by
  simp [recalls_iff_since, since_succ, hk]

end Dataset

/-- **What the walk remembers** after `k` nodes is the line remembered at place `k`. -/
lemma Walk.lastLine_after_eq_some_iff (g : Graph) (step k : Nat) (line : UInt32) :
    (after (.ofGraph g) step k).lastLine = some line ↔ (Dataset.ofGraph g).Recalls k line := by
  refine after_induction
    (P := fun k w => w.lastLine = some line ↔ (Dataset.ofGraph g).Recalls k line)
    ?_ ?_ ?_ ?_ k
  · simp [start, Dataset.not_recalls_zero]
  · intro k w n hn ih
    rw [lastLine_visit, if_neg (Int64.not_lt.2 hn.2), Dataset.recalls_succ hn, ← ih,
      Option.or_eq_some_iff, and_comm (a := w.lastLine = some line)]
  · intro k w n hn hneg ih
    rw [lastLine_visit, if_pos hneg, ih, Dataset.recalls_succ_of_not]
    exact fun _ => Dataset.not_reachedAt_of_neg hn hneg
  · intro k w hk ih
    rw [ih, Dataset.recalls_succ_of_not]
    exact fun _ => Dataset.not_reachedAt_of_none hk

/-! ### The mark of a step -/

/-- The rules of the mark at a place with the given node. -/
inductive Dataset.Marks (d : Dataset) (k : Nat) (n : Node) : Option UInt32 → Prop
  /-- A node that is skipped marks nothing. -/
  | skipped (hneg : n.intervalStart < 0) : d.Marks k n none
  /-- The line of the first edge into the node is marked. -/
  | entered {line : UInt32} (hreached : 0 ≤ n.intervalStart) (hline : d.entryLine n = some line) :
      d.Marks k n (some line)
  /-- If that edge has no line, the remembered one is marked. -/
  | recalled {e : Edge} {line : UInt32} (hreached : 0 ≤ n.intervalStart)
      (hfirst : d.firstInto n = some e) (hnone : e.lineNumber = none)
      (hrecalls : d.Recalls k line) :
      d.Marks k n (some line)
  /-- If there is no edge into the node, or one without a line and nothing is remembered, the line
  of the first edge out of a merged node is marked. -/
  | merged (hreached : 0 ≤ n.intervalStart) (hnone : d.entryLine n = none)
      (hforgot : d.firstInto n = none ∨ ∀ line, ¬ d.Recalls k line) :
      d.Marks k n (d.mergedLine n)

namespace Dataset

variable {g : Graph} {last s : Nat} {n : Node}

/-- What the visit of a node marks, in terms of the line remembered before. -/
lemma marks_iff {k : Nat} {x remembered : Option UInt32}
    (hremembered : ∀ line, remembered = some line ↔ (ofGraph g).Recalls k line) :
    (ofGraph g).Marks k n x
      ↔ x = if n.intervalStart < 0 then none
        else
          (if ((ofGraph g).firstInto n).isSome
            then ((ofGraph g).entryLine n).or remembered else none).or
            ((ofGraph g).mergedLine n) := by
  constructor
  · rintro (hneg | ⟨hreached, hline⟩ | ⟨hreached, hfirst, hnone, hrecalls⟩ |
      ⟨hreached, hnone, hforgot⟩)
    · rw [if_pos hneg]
    · have hsome : ((ofGraph g).firstInto n).isSome := by
        cases hfirst : (ofGraph g).firstInto n with
        | none => simp [entryLine, hfirst] at hline
        | some e => rfl
      rw [if_neg (Int64.not_lt.2 hreached), if_pos hsome, hline, Option.some_or, Option.some_or]
    · have hentry : (ofGraph g).entryLine n = none := by simp [entryLine, hfirst, hnone]
      rw [if_neg (Int64.not_lt.2 hreached), hfirst, if_pos Option.isSome_some, hentry,
        Option.none_or, (hremembered _).2 hrecalls, Option.some_or]
    · have hleft : (if ((ofGraph g).firstInto n).isSome
          then ((ofGraph g).entryLine n).or remembered else none) = none := by
        rcases hforgot with hfirst | hforgot
        · rw [hfirst]
          rfl
        · cases hr : remembered with
          | none => rw [hnone, Option.or_none, ite_self]
          | some line => exact absurd ((hremembered line).1 hr) (hforgot line)
      rw [if_neg (Int64.not_lt.2 hreached), hleft, Option.none_or]
  · rintro rfl
    by_cases hneg : n.intervalStart < 0
    · rw [if_pos hneg]
      exact .skipped hneg
    rw [if_neg hneg]
    have hreached := Int64.not_lt.1 hneg
    cases hfirst : (ofGraph g).firstInto n with
    | none =>
        have hentry : (ofGraph g).entryLine n = none := by simp [entryLine, hfirst]
        exact .merged hreached hentry (.inl hfirst)
    | some e =>
        rw [if_pos Option.isSome_some]
        cases hline : e.lineNumber with
        | some line =>
            have hentry : (ofGraph g).entryLine n = some line := by simp [entryLine, hfirst, hline]
            rw [hentry, Option.some_or, Option.some_or]
            exact .entered hreached hentry
        | none =>
            have hentry : (ofGraph g).entryLine n = none := by simp [entryLine, hfirst, hline]
            rw [hentry, Option.none_or]
            cases hr : remembered with
            | some line => exact .recalled hreached hfirst hline ((hremembered line).1 hr)
            | none =>
                refine .merged hreached hentry (.inr fun line hrecalls => ?_)
                rw [(hremembered line).2 hrecalls] at hr
                cases hr

/-- The mark of a step that is not past the last one. -/
lemma markedLine_visualAt_of_le (hlast : (ofGraph g).maxStep? = some last) (hs : s ≤ last)
    (hn : (ofGraph g).nodes[s]? = some n) (x : Option UInt32) :
    ((ofGraph g).visualAt s).markedLine = x ↔ (ofGraph g).Marks s n x := by
  rw [visualAt_of_le hlast hs, Walk.after_succ hn, Walk.markedLine_visit,
    marks_iff (Walk.lastLine_after_eq_some_iff g s s), eq_comm]

/-- Past the last step the mark is that of the last one. -/
lemma markedLine_visualAt_of_lt (hlast : (ofGraph g).maxStep? = some last) (hs : last < s) :
    ((ofGraph g).visualAt s).markedLine = ((ofGraph g).visualAt last).markedLine := by
  obtain ⟨n, hn⟩ := exists_node_of_maxStep? hlast
  rw [visualAt_of_lt hlast hn hs]

end Dataset

/-! ### What the mark does not depend on -/

/-- The graph with other stops. -/
def Graph.withStops (g : Graph) (stops : Node → Option Int64) : Graph :=
  { g with nodes := g.nodes.map fun n => { n with intervalStop := stops n } }

namespace Dataset

variable {g : Graph} {stops : Node → Option Int64}

/-- Stops do not change the step order. -/
lemma nodes_withStops :
    (ofGraph (g.withStops stops)).nodes
      = (ofGraph g).nodes.map fun n => { n with intervalStop := stops n } := by
  refine (List.map_mergeSort ?_).symm
  intro a _ b _
  rfl

lemma maxStep?_withStops : (ofGraph (g.withStops stops)).maxStep? = (ofGraph g).maxStep? := by
  simp [maxStep?, nodes_withStops]

/-- Stops do not change what the walk remembers. -/
lemma lastLine_after_withStops (step k : Nat) :
    (Walk.after (ofGraph (g.withStops stops)) step k).lastLine
      = (Walk.after (ofGraph g) step k).lastLine := by
  induction k with
  | zero => rw [Walk.after_zero, Walk.after_zero]; rfl
  | succ k ih =>
      cases hk : (ofGraph g).nodes[k]? with
      | none =>
          rw [Walk.after_succ_of_none hk, Walk.after_succ_of_none, ih]
          rw [nodes_withStops, List.getElem?_map, hk, Option.map_none]
      | some n =>
          have hk' : (ofGraph (g.withStops stops)).nodes[k]?
              = some { n with intervalStop := stops n } := by
            rw [nodes_withStops, List.getElem?_map, hk, Option.map_some]
          rw [Walk.after_succ hk, Walk.after_succ hk', Walk.lastLine_visit, Walk.lastLine_visit, ih]
          rfl

/-- Stops do not change the mark. -/
lemma markedLine_visualAt_withStops (s : Nat) :
    ((ofGraph (g.withStops stops)).visualAt s).markedLine
      = ((ofGraph g).visualAt s).markedLine := by
  have hwithin : ∀ last s, (ofGraph g).maxStep? = some last → s ≤ last →
      ((ofGraph (g.withStops stops)).visualAt s).markedLine
        = ((ofGraph g).visualAt s).markedLine := by
    intro last s hlast hs
    have hlen := maxStep?_eq_some_iff.1 hlast
    have hn : (ofGraph g).nodes[s]? = some (ofGraph g).nodes[s] :=
      List.getElem?_eq_getElem (by omega)
    have hn' : (ofGraph (g.withStops stops)).nodes[s]?
        = some { (ofGraph g).nodes[s] with intervalStop := stops (ofGraph g).nodes[s] } := by
      rw [nodes_withStops, List.getElem?_map, hn, Option.map_some]
    rw [visualAt_of_le hlast hs, visualAt_of_le (maxStep?_withStops.trans hlast) hs,
      Walk.after_succ hn, Walk.after_succ hn', Walk.markedLine_visit, Walk.markedLine_visit,
      lastLine_after_withStops]
    rfl
  cases hlast : (ofGraph g).maxStep? with
  | none =>
      rw [visualAt_of_none hlast, visualAt_of_none (maxStep?_withStops.trans hlast)]
      rfl
  | some last =>
      by_cases hs : s ≤ last
      · exact hwithin last s hlast hs
      · rw [markedLine_visualAt_of_lt hlast (Nat.not_le.1 hs),
          markedLine_visualAt_of_lt (maxStep?_withStops.trans hlast) (Nat.not_le.1 hs)]
        exact hwithin last last hlast (Nat.le_refl last)

/-- **The marked line in closed form**: a step that is not past the last one marks a line iff the
rules give it, a step past the last one marks what the last one marks, and without nodes nothing is
marked.  A visit marks the same line in any two walks that remember the same one, whatever their
stamps, liveness, highlights and marks, and the stops of the nodes play no part. -/
theorem markedLine_visualAt_iff (g : Graph) :
    (∀ last, (ofGraph g).maxStep? = some last →
      (∀ s ≤ last, ∀ n, (ofGraph g).nodes[s]? = some n → ∀ x,
        ((ofGraph g).visualAt s).markedLine = x ↔ (ofGraph g).Marks s n x)
      ∧ ∀ s > last,
        ((ofGraph g).visualAt s).markedLine = ((ofGraph g).visualAt last).markedLine)
    ∧ ((ofGraph g).maxStep? = none → ∀ s, ((ofGraph g).visualAt s).markedLine = none)
    ∧ (∀ (w w' : Walk) (n : Node), w.lastLine = w'.lastLine →
      (Walk.visit (ofGraph g) w n).visual.markedLine
        = (Walk.visit (ofGraph g) w' n).visual.markedLine
      ∧ (Walk.visit (ofGraph g) w n).lastLine = (Walk.visit (ofGraph g) w' n).lastLine)
    ∧ ∀ (stops : Node → Option Int64) (s : Nat),
      ((ofGraph (g.withStops stops)).visualAt s).markedLine
        = ((ofGraph g).visualAt s).markedLine := by
  refine ⟨fun last hlast => ⟨fun s hs n hn x => markedLine_visualAt_of_le hlast hs hn x,
    fun s hs => markedLine_visualAt_of_lt hlast hs⟩, fun hnone s => ?_, fun w w' n h => ?_,
    fun stops s => markedLine_visualAt_withStops s⟩
  · rw [visualAt_of_none hnone]
    rfl
  · rw [Walk.markedLine_visit, Walk.markedLine_visit, Walk.lastLine_visit, Walk.lastLine_visit, h]
    exact ⟨rfl, rfl⟩

/-- The last node is merged, and the edge into it has no line; the line of the edge before is
remembered over a node that is skipped, and comes before the line of the merge. -/
def remembering : Graph where
  nodes := [
    ⟨0, "start", .plain, 0, none, false⟩,
    ⟨1, "step", .plain, 1, none, false⟩,
    ⟨7, "skipped", .plain, -1, none, false⟩,
    ⟨2, "merge", .merged, 2, some 1, false⟩]
  edges := [⟨0, 1, "x = 1;", 8⟩, ⟨1, 2, "", -1⟩, ⟨2, 0, "loop", 9⟩]

theorem markedLine_remembering :
    (ofGraph remembering).maxStep? = some 3
      ∧ (ofGraph remembering).nodes[3]? = some ⟨2, "merge", .merged, 2, some 1, false⟩
      ∧ (ofGraph remembering).Recalls 3 8
      ∧ (ofGraph remembering).mergedLine ⟨2, "merge", .merged, 2, some 1, false⟩ = some 9
      ∧ ((ofGraph remembering).visualAt 3).markedLine = some 8 := by
  have hlast : (ofGraph remembering).maxStep? = some 3 := by cbv
  have hn : (ofGraph remembering).nodes[3]? = some ⟨2, "merge", .merged, 2, some 1, false⟩ := by cbv
  have hlastLine : (Walk.after (ofGraph remembering) 3 3).lastLine = some 8 := by cbv
  have hrecalls := (Walk.lastLine_after_eq_some_iff remembering 3 3 8).1 hlastLine
  refine ⟨hlast, hn, hrecalls, by cbv, ?_⟩
  exact (((markedLine_visualAt_iff remembering).1 3 hlast).1 3 (Nat.le_refl 3) _ hn (some 8)).2
    (.recalled (by decide) (e := ⟨1, 2, "", -1⟩) (by cbv) (by cbv) hrecalls)

end Dataset

end Retrace
