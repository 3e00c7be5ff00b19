import Retrace.Json.Record
import Retrace.Log

/-!
The settings of the viewer, which a report may carry beside its data.
-/

namespace Retrace

open Json

/-- What the button for the full graph shows. -/
inductive FullGraph where
  /-- The last step, without merge highlights. -/
  | replay
  /-- Every node and edge, with every merged node highlighted. -/
  | revealAll
  deriving DecidableEq, Repr

namespace FullGraph

/-- The ways to show the full graph with their tags. -/
def tags : List (String × FullGraph) := [("replay", .replay), ("revealAll", .revealAll)]

/-- The tag in the settings. -/
def tag : FullGraph → String
  | .replay => "replay"
  | .revealAll => "revealAll"

/-- The name in messages. -/
def name : FullGraph → String
  | .replay => "Replay"
  | .revealAll => "RevealAll"

end FullGraph

/-- The settings of the viewer. -/
structure Settings where
  /-- The step shown first. -/
  initialStep : Nat := 0
  fullGraph : FullGraph := .replay
  logLevel : LogLevel := .debug
  showEdgeLabels : Bool := true
  deriving DecidableEq, Repr

/-- The settings as far as they have been read. -/
structure Settings.Draft where
  initialStep : Option Nat := none
  fullGraph : Option FullGraph := none
  logLevel : Option LogLevel := none
  showEdgeLabels : Option Bool := none

/-- How the settings are read; each of them has a default. -/
def Settings.shape : Shape Settings.Draft Settings where
  name := "ReplayConfig"
  start := {}
  fields := [
    .of "initialStep" (·.initialStep) (fun d v => { d with initialStep := some v }) count,
    .of "fullGraphMode" (·.fullGraph) (fun d v => { d with fullGraph := some v })
      (choice FullGraph.tags),
    .of "logLevel" (·.logLevel) (fun d v => { d with logLevel := some v }) (choice LogLevel.tags),
    .of "showEdgeLabels" (·.showEdgeLabels) (fun d v => { d with showEdgeLabels := some v })
      boolean]
  finish d := .ok {
    initialStep := d.initialStep.getD 0
    fullGraph := d.fullGraph.getD .replay
    logLevel := d.logLevel.getD .debug
    showEdgeLabels := d.showEdgeLabels.getD true }

end Retrace
