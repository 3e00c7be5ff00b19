import Mathlib.Tactic.Lemma
import Retrace.Proofs.Replay.Highlights
import Retrace.Proofs.Replay.Progress
import Retrace.Proofs.Replay.Runs

/-!
What every engine that has been started on a graph satisfies.

* `Visual.Fits`: a picture speaks of a dataset; `Walk.Fits.reach` and its companions keep this
  through the walk, `Dataset.fits_visualAt` is the result for a step;
* `Dataset.step_visualAt`: the step that a picture says it shows;
* `Engine.WellFormed`: the current step and the picture go together and fit the dataset;
  `Engine.WellFormed.act` carries it from action to action;
* `Engine.pushes`: what a run has pushed; `Engine.getLast?_pushes`: its last picture, mark and
  slider are those of the engine;
* `Engine.wellFormed_run`: all of this, after any run.
-/

namespace Retrace

/-! ### Pictures -/

/-- The picture speaks of a dataset: of all of its edges and of nothing that is not there. -/
structure Visual.Fits (d : Dataset) (v : Visual) : Prop where
  /-- One entry for each edge. -/
  edges : v.edges.length = d.edges.length
  shown : ∀ i ∈ v.shownNodes, ∃ n ∈ d.nodes, n.index = i
  /-- A highlight belongs to a shown node, and to a merge. -/
  colored : ∀ i ∈ v.mergeColored, i ∈ v.shownNodes ∧ ∃ n ∈ d.nodes, n.index = i ∧ n.kind = .merged
  stopped : ∀ i ∈ v.stopped, ∃ n ∈ d.nodes, n.index = i ∧ n.analysisStop = true
  marked : ∀ line, v.markedLine = some line → ∃ e ∈ d.edges, e.lineNumber = some line

lemma Visual.fits_blank (d : Dataset) : (blank d.edges.length).Fits d where
  edges := List.length_replicate
  shown i hi := absurd hi (IdSet.not_mem_empty i)
  colored i hi := absurd hi (IdSet.not_mem_empty i)
  stopped i hi := absurd hi (IdSet.not_mem_empty i)
  marked line hline := by cases hline

/-- Taking highlights away leaves a picture that fits. -/
lemma Visual.Fits.recolored {d : Dataset} {v : Visual} (h : v.Fits d) {colored : IdSet}
    (hsub : ∀ i ∈ colored, i ∈ v.mergeColored) : { v with mergeColored := colored }.Fits d where
  edges := h.edges
  shown := h.shown
  colored i hi := h.colored i (hsub i hi)
  stopped := h.stopped
  marked := h.marked

/-! ### The walk -/

namespace Walk

/-- The picture of the walk fits the dataset, and the remembered line is that of an edge. -/
structure Fits (d : Dataset) (w : Walk) : Prop where
  visual : w.visual.Fits d
  remembered : ∀ line, w.lastLine = some line → ∃ e ∈ d.edges, e.lineNumber = some line

variable {d : Dataset} {w : Walk} {n : Node}

lemma length_changeEdges (change : Liveness → Liveness) (ids : List EdgeId)
    (edges : List Liveness) : (changeEdges change ids edges).length = edges.length := by
  induction ids generalizing edges with
  | nil => rfl
  | cons id ids ih => exact (ih _).trans (List.length_modify _ _ _)

/-- The line of the first of some edges is that of an edge. -/
lemma exists_of_firstLine {ids : List EdgeId} {line : UInt32} (h : firstLine d ids = some line) :
    ∃ e ∈ d.edges, e.lineNumber = some line := by
  obtain ⟨e, he, hline⟩ := Option.bind_eq_some_iff.1 h
  obtain ⟨id, -, hid⟩ := Option.bind_eq_some_iff.1 he
  exact ⟨e, List.mem_of_getElem? hid, hline⟩

lemma Fits.start (d : Dataset) (step : Nat) : (start d step).Fits d where
  visual :=
    have h := Visual.fits_blank d
    ⟨h.edges, h.shown, h.colored, h.stopped, h.marked⟩
  remembered line hline := by cases hline

lemma Fits.enter (h : w.Fits d) (hn : n ∈ d.nodes) : (w.enter n).Fits d where
  visual :=
    { edges := h.visual.edges
      shown := h.visual.shown
      colored := h.visual.colored
      stopped := by
        intro i hi
        rw [Walk.enter] at hi
        dsimp only at hi
        split at hi
        · case isTrue hstop =>
            rcases IdSet.mem_insert.1 hi with rfl | hi
            · exact ⟨n, hn, rfl, hstop⟩
            · exact h.visual.stopped i hi
        · exact h.visual.stopped i hi
      marked := fun line hline => by cases hline }
  remembered := h.remembered

/-- What a reached node makes remembered is the line of an edge. -/
lemma Fits.remembered_reach (h : w.Fits d) {line : UInt32}
    (hline : (reach d w n).lastLine = some line) : ∃ e ∈ d.edges, e.lineNumber = some line := by
  rcases Option.or_eq_some_iff.1 hline with hfirst | ⟨-, hlast⟩
  · exact exists_of_firstLine hfirst
  · exact h.remembered line hlast

lemma Fits.marked_reach (h : w.Fits d) {line : UInt32}
    (hline : (reach d w n).visual.markedLine = some line) :
    ∃ e ∈ d.edges, e.lineNumber = some line := by
  rcases Option.or_eq_some_iff.1 hline with hentered | ⟨-, hmerge⟩
  · split at hentered
    · exact h.remembered_reach hentered
    · cases hentered
  · rw [mergeLine] at hmerge
    split at hmerge
    · exact exists_of_firstLine hmerge
    · cases hmerge

lemma Fits.reach (h : w.Fits d) (hn : n ∈ d.nodes) : (reach d w n).Fits d where
  visual :=
    { edges := by
        rw [Walk.reach]
        simp only [length_changeEdges]
        exact h.visual.edges
      shown := by
        intro i hi
        rcases IdSet.mem_insert.1 hi with rfl | hi
        · exact ⟨n, hn, rfl⟩
        · exact h.visual.shown i hi
      colored := by
        intro i hi
        rcases mem_recolor.1 hi with ⟨rfl, hmerged⟩ | ⟨hi, -⟩
        · exact ⟨IdSet.mem_insert.2 (.inl rfl), n, hn, rfl, hmerged⟩
        · obtain ⟨hshown, hnode⟩ := h.visual.colored i hi
          exact ⟨IdSet.mem_insert.2 (.inr hshown), hnode⟩
      stopped := h.visual.stopped
      marked := fun _ => h.marked_reach }
  remembered := fun _ => h.remembered_reach

lemma fits_after (d : Dataset) (step k : Nat) : (after d step k).Fits d := by
  refine after_induction (P := fun _ w => w.Fits d) (Fits.start d step) ?_ ?_ ?_ k
  · intro k w n hn h
    have hmem := List.mem_of_getElem? hn.1
    rw [visit_of_nonneg hn.2]
    exact (h.enter hmem).reach hmem
  · intro k w n hn hneg h
    rw [visit_of_neg hneg]
    exact h.enter (List.mem_of_getElem? hn)
  · intro k w _ h
    exact h

/-- A walk keeps the step that it is heading for. -/
lemma step_after (d : Dataset) (step k : Nat) : (after d step k).visual.step = step := by
  refine after_induction (P := fun _ w => w.visual.step = step) rfl ?_ ?_ ?_ k
  · intro k w n hn h
    rw [visit_of_nonneg hn.2]
    exact h
  · intro k w n _ hneg h
    rw [visit_of_neg hneg]
    exact h
  · intro k w _ h
    exact h

end Walk

/-! ### Steps -/

namespace Dataset

lemma fits_visualAt (d : Dataset) (s : Nat) : (d.visualAt s).Fits d := by
  obtain ⟨w, colored, rfl, hsub, h⟩ := exists_after_visualAt d s
  rw [h]
  exact (Walk.fits_after d _ (s + 1)).visual.recolored hsub

/-- A picture says which step it shows, and past the end that it shows the last one. -/
lemma step_visualAt (d : Dataset) (s : Nat) : (d.visualAt s).step = min s (d.maxStep?.getD 0) := by
  obtain ⟨w, colored, rfl, -, h⟩ := exists_after_visualAt d s
  rw [h]
  exact Walk.step_after d _ (s + 1)

end Dataset

/-! ### Engines -/

namespace Engine

/-- The current step is that of the picture and not past the last one, and the picture fits the
dataset. -/
structure WellFormed (e : Engine) : Prop where
  step : e.current = e.visual.step
  bound : e.current ≤ e.maxStep
  visual : e.visual.Fits e.dataset

variable {e : Engine}

lemma wellFormed_ofDataset (d : Dataset) : (ofDataset d).WellFormed where
  step := rfl
  bound := Nat.zero_le _
  visual := Visual.fits_blank d

/-- Everything is shown of the dataset, and the mark stays what it was. -/
lemma WellFormed.fits_revealed (h : e.WellFormed) : e.revealed.Fits e.dataset where
  edges := List.length_replicate
  shown i hi := by
    obtain ⟨n, hn, rfl⟩ := List.mem_map.1 (IdSet.mem_ofList.1 hi)
    exact ⟨n, hn, rfl⟩
  colored i hi := by
    obtain ⟨n, hn, rfl⟩ := List.mem_map.1 (IdSet.mem_ofList.1 hi)
    obtain ⟨hmem, hkind⟩ := List.mem_filter.1 hn
    exact ⟨IdSet.mem_ofList.2 (List.mem_map_of_mem hmem), n, hmem, rfl, of_decide_eq_true hkind⟩
  stopped i hi := by
    obtain ⟨n, hn, rfl⟩ := List.mem_map.1 (IdSet.mem_ofList.1 hi)
    obtain ⟨hmem, hstop⟩ := List.mem_filter.1 hn
    exact ⟨n, hmem, rfl, hstop⟩
  marked := h.visual.marked

lemma wellFormed_advanceTo (e : Engine) (step : Nat) : (e.advanceTo step).engine.WellFormed where
  step := (e.dataset.step_visualAt step).symm
  bound := Nat.min_le_right _ _
  visual := e.dataset.fits_visualAt step

/-- Every action leads to a well-formed engine. -/
lemma WellFormed.act (h : e.WellFormed) (a : Action) : (e.act a).engine.WellFormed := by
  cases a with
  | advanceTo step => exact wellFormed_advanceTo e step
  | reset => exact wellFormed_advanceTo e 0
  | stepForward => exact wellFormed_advanceTo e _
  | stepBack => exact wellFormed_advanceTo e _
  | showFull mode =>
      cases mode with
      | replay =>
          refine ⟨?_, Nat.le_refl _, ?_⟩
          · have hstep : (e.dataset.visualAt e.maxStep).step = e.maxStep := by
              rw [Dataset.step_visualAt, maxStep, Nat.min_self]
            exact hstep.symm
          · exact (e.dataset.fits_visualAt e.maxStep).recolored
              fun i hi => absurd hi (IdSet.not_mem_empty i)
      | revealAll => exact ⟨rfl, Nat.le_refl _, h.fits_revealed⟩

/-! ### Pushes -/

/-- Everything that a run pushes, in order. -/
def pushes (e : Engine) (actions : List Action) : List Push :=
  (e.outcomes actions).flatMap (·.pushes)

lemma outcomes_concat (e : Engine) (actions : List Action) (a : Action) :
    e.outcomes (actions ++ [a]) = e.outcomes actions ++ [(e.run actions).act a] := by
  induction actions generalizing e with
  | nil => rfl
  | cons b more ih => rw [List.cons_append, outcomes, ih, outcomes, run_cons, List.cons_append]

lemma pushes_concat (e : Engine) (actions : List Action) (a : Action) :
    e.pushes (actions ++ [a]) = e.pushes actions ++ ((e.run actions).act a).pushes := by
  rw [pushes, outcomes_concat, List.flatMap_append, List.flatMap_singleton, pushes]

end Engine

namespace Push

/-- The picture that is pushed. -/
def visual? : Push → Option Visual
  | .apply v => some v
  | .mark _ | .clearMark | .slider .. => none

/-- The mark that is pushed: a line, or that no line is marked. -/
def mark? : Push → Option (Option UInt32)
  | .mark line => some (some line)
  | .clearMark => some none
  | .apply _ | .slider .. => none

/-- The slider that is pushed: its range and its position. -/
def slider? : Push → Option (Nat × Nat × Nat)
  | .slider min max value => some (min, max, value)
  | .apply _ | .mark _ | .clearMark => none

/-! A picture, a mark and a slider, pushed in this order, hold one of each. -/

variable (v : Visual) (mark : Option UInt32) (min max value : Nat)

lemma filterMap_visual? : [apply v, ofMark mark, slider min max value].filterMap visual? = [v] := by
  cases mark <;> rfl

lemma filterMap_mark? : [apply v, ofMark mark, slider min max value].filterMap mark? = [mark] := by
  cases mark <;> rfl

lemma filterMap_slider? :
    [apply v, ofMark mark, slider min max value].filterMap slider? = [(min, max, value)] := by
  cases mark <;> rfl

end Push

namespace Engine

/-- After a run the last picture, the last mark and the last slider that were pushed are those of
the engine. -/
lemma getLast?_pushes (e : Engine) {actions : List Action} (h : actions ≠ []) :
    ((e.pushes actions).filterMap Push.visual?).getLast? = some (e.run actions).visual
      ∧ ((e.pushes actions).filterMap Push.mark?).getLast? = some (e.run actions).visual.markedLine
      ∧ ((e.pushes actions).filterMap Push.slider?).getLast?
        = some (0, (e.run actions).maxStep, (e.run actions).current) := by
  obtain ⟨before, a, rfl⟩ := (List.eq_nil_or_concat actions).resolve_left h
  rw [List.concat_eq_append, pushes_concat, pushes_act, run_append, run_cons, run_nil]
  simp only [List.filterMap_append, Push.filterMap_visual?, Push.filterMap_mark?,
    Push.filterMap_slider?, List.getLast?_concat, and_self]

/-- **Every engine started on a graph is well formed**: after any run it has the dataset of the
graph, its step is that of its picture and not past the last one, and its picture fits the dataset;
and after at least one action the last slider, picture and mark that were pushed are those of the
engine. -/
theorem wellFormed_run (g : Graph) (actions : List Action) :
    ((ofGraph g).run actions).dataset = .ofGraph g
      ∧ ((ofGraph g).run actions).WellFormed
      ∧ (actions ≠ [] →
        (((ofGraph g).pushes actions).filterMap Push.slider?).getLast?
            = some (0, ((ofGraph g).run actions).maxStep, ((ofGraph g).run actions).current)
          ∧ (((ofGraph g).pushes actions).filterMap Push.visual?).getLast?
            = some ((ofGraph g).run actions).visual
          ∧ (((ofGraph g).pushes actions).filterMap Push.mark?).getLast?
            = some ((ofGraph g).run actions).visual.markedLine) := by
  refine ⟨dataset_run _ actions, ?_, fun h => ?_⟩
  · exact run_induction (fun _ a h => h.act a) (wellFormed_ofDataset _) actions
  · obtain ⟨hvisual, hmark, hslider⟩ := getLast?_pushes (ofGraph g) h
    exact ⟨hslider, hvisual, hmark⟩

/-- Two nodes have one index, one is skipped, and one edge leads nowhere. -/
def malformed : Graph where
  nodes := [
    ⟨0, "start", .plain, 0, none, false⟩,
    ⟨0, "again", .merged, 1, none, false⟩,
    ⟨3, "skipped", .merged, -2, none, true⟩]
  edges := [⟨0, 0, "loop", 4⟩, ⟨0, 8, "", 7⟩]

theorem wellFormed_malformed :
    ((ofGraph malformed).run [.advanceTo 9, .showFull .revealAll]).WellFormed
      ∧ ((ofGraph malformed).run [.advanceTo 9, .showFull .revealAll]).visual = {
        step := 2
        shownNodes := .ofList [0, 3]
        edges := [.full, .full]
        mergeColored := .ofList [0, 3]
        stopped := .ofList [3]
        markedLine := some 4 }
      ∧ [Action.advanceTo 9, .showFull .revealAll] ≠ []
      ∧ (((ofGraph malformed).pushes [.advanceTo 9, .showFull .revealAll]).filterMap
        Push.slider?).getLast? = some (0, 2, 2) := by
  have hactions : [Action.advanceTo 9, .showFull .revealAll] ≠ [] := List.cons_ne_nil _ _
  have hmax : ((ofGraph malformed).run [.advanceTo 9, .showFull .revealAll]).maxStep = 2 := by cbv
  have hcurrent : ((ofGraph malformed).run [.advanceTo 9, .showFull .revealAll]).current = 2 := by
    cbv
  obtain ⟨-, hformed, hpushed⟩ := wellFormed_run malformed [.advanceTo 9, .showFull .revealAll]
  refine ⟨hformed, by cbv, hactions, ?_⟩
  rw [(hpushed hactions).1, hmax, hcurrent]

end Engine

end Retrace
