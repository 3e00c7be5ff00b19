import Retrace.Replay.Walk
import Retrace.Settings

/-!
The replay engine.

An engine holds a dataset, the current step and what is shown.  Every action moves to a step, shows
it, and pushes what changed to the view: the picture, the marked line and the slider.
-/

namespace Retrace

/-- What an engine tells the view. -/
inductive Push where
  /-- Show this, in place of whatever is shown. -/
  | apply (v : Visual)
  | mark (line : UInt32)
  | clearMark
  /-- The range and the position of the slider. -/
  | slider (min max value : Nat)
  deriving DecidableEq

/-- What a user asks of an engine. -/
inductive Action where
  | advanceTo (step : Nat)
  | reset
  | stepForward
  | stepBack
  | showFull (mode : FullGraph)
  deriving DecidableEq, Repr

/-- A replay at its current step. -/
structure Engine where
  dataset : Dataset
  current : Nat
  visual : Visual

/-- What an action leads to. -/
structure Outcome where
  engine : Engine
  pushes : List Push
  log : LogLine

namespace Engine

/-- The replay of a dataset before anything has been shown. -/
def ofDataset (d : Dataset) : Engine := ⟨d, 0, .blank d.edges.length⟩

/-- The replay of a graph before anything has been shown. -/
def ofGraph (g : Graph) : Engine := ofDataset (.ofGraph g)

/-- The last step; zero without nodes. -/
def maxStep (e : Engine) : Nat := e.dataset.maxStep?.getD 0

/-- Moves to a step that shows the given picture. -/
def present (e : Engine) (step : Nat) (v : Visual) (log : LogLine) : Outcome where
  engine := { e with current := step, visual := v }
  pushes := [
    .apply v,
    match v.markedLine with
    | some line => .mark line
    | none => .clearMark,
    .slider 0 e.maxStep step]
  log

/-- Moves to a step, or to the last one if the step lies past it. -/
def advanceTo (e : Engine) (step : Nat) : Outcome :=
  let v := e.dataset.visualAt step
  let current := min step e.maxStep
  e.present current v ⟨.debug, s!"replay step {current} -> {v.shownNodes.size} nodes, " ++
    s!"{v.shownEdges.length} edges shown"⟩

/-- Every node and every edge, with every merged node highlighted; the marked line stays. -/
def revealed (e : Engine) : Visual where
  step := e.maxStep
  shownNodes := .ofList (e.dataset.nodes.map (·.index))
  edges := List.replicate e.dataset.edges.length .full
  mergeColored := .ofList ((e.dataset.nodes.filter (·.kind = .merged)).map (·.index))
  stopped := .ofList ((e.dataset.nodes.filter (·.analysisStop)).map (·.index))
  markedLine := e.visual.markedLine

/-- The picture of the full graph. -/
def fullVisual (e : Engine) : FullGraph → Visual
  | .replay => { e.dataset.visualAt e.maxStep with mergeColored := ∅ }
  | .revealAll => e.revealed

/-- Performs an action. -/
def act (e : Engine) : Action → Outcome
  | .advanceTo step => e.advanceTo step
  | .reset => e.advanceTo 0
  | .stepForward => e.advanceTo (min (e.current + 1) e.maxStep)
  | .stepBack => e.advanceTo (e.current - 1)
  | .showFull mode =>
    e.present e.maxStep (e.fullVisual mode) ⟨.debug, s!"full graph shown ({mode.name})"⟩

/-- Performs actions one after the other. -/
def run (e : Engine) (actions : List Action) : Engine :=
  actions.foldl (fun e a => (e.act a).engine) e

end Engine

end Retrace
