import Retrace.Page.Markup
import Retrace.Replay.Engine

/-!
The controls of the replay: the buttons, the slider and the readout.
-/

namespace Retrace

/-- The range and the position of the slider. -/
structure Slider where
  min : Nat
  max : Nat
  value : Nat
  deriving DecidableEq, Repr

namespace Controls

/-- The buttons with what they do. -/
def buttonAction (mode : FullGraph) : String → Option Action
  | "Reset" => some .reset
  | "Previous" => some .stepBack
  | "Next" => some .stepForward
  | "Full graph" => some (.showFull mode)
  | _ => none

/-- The number that decimal digits stand for. -/
def digitsValue : List Char → Option Nat
  | [] => none
  | cs =>
    if cs.all Char.isDigit then some (cs.foldl (fun n c => n * 10 + (c.toNat - '0'.toNat)) 0)
    else none

/-- The number that a text stands for: digits behind at most one plus sign, of which a word of the
machine can hold the value. -/
def parseNumber (s : String) : Option Nat :=
  let digits :=
    match s.toList with
    | '+' :: cs => cs
    | cs => cs
  (digitsValue digits).filter (· < USize.size)

/-- The text of the readout. -/
def readout (s : Slider) : String := s!"Step {s.value} / {s.max}"

/-- The controls on the page. -/
def render (s : Slider) : Markup :=
  .classed "div" "step-controls" [
    .plain "button" "Reset",
    .plain "button" "Previous",
    .element "input" [
      ("type", "range"), ("class", "step-slider"), ("min", toString s.min),
      ("max", toString s.max), ("prop:value", toString s.value)] [],
    .plain "button" "Next",
    .plain "button" "Full graph",
    .classed "span" "step-readout" [.text (readout s)]]

end Controls

end Retrace
