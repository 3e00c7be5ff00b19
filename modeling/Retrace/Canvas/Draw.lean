import Retrace.Decimal.Rendering

/-!
The commands of a drawing context, and how they are written down.
-/

namespace Retrace

/-- A command of a two-dimensional drawing context.  Gradients are numbered from one. -/
inductive Draw where
  | fillStyle (style : String)
  | fillGradient (gradient : Nat)
  | strokeStyle (style : String)
  | font (face : String)
  | lineWidth (width : Float)
  | globalAlpha (alpha : Float)
  | lineDash (pattern : List Float)
  | lineDashOffset (offset : Float)
  | fillRect (x y width height : Float)
  | save
  | restore
  | translate (x y : Float)
  | scale (x y : Float)
  | beginPath
  | closePath
  | moveTo (x y : Float)
  | lineTo (x y : Float)
  | stroke
  | fill
  | arc (x y radius fromAngle toAngle : Float)
  | fillText (x y : Float) (text : String)
  | measureText (text : String)
  | radialGradient (gradient : Nat) (x0 y0 r0 x1 y1 r1 : Float)
  | colorStop (gradient : Nat) (offset : Float) (color : String)
  deriving DecidableEq

/-- A number inside a command. -/
def number (x : Float) : String := Decimal.plain.render x

/-- Numbers with spaces between them. -/
def numbers (xs : List Float) : String := String.intercalate " " (xs.map number)

/-- The written form of a command. -/
def Draw.render : Draw → String
  | .fillStyle style => "fillStyle " ++ style
  | .fillGradient gradient => s!"fillStyle gradient{gradient}"
  | .strokeStyle style => "strokeStyle " ++ style
  | .font face => "font " ++ face
  | .lineWidth width => "lineWidth " ++ number width
  | .globalAlpha alpha => "globalAlpha " ++ number alpha
  | .lineDash [] => "setLineDash"
  | .lineDash pattern => "setLineDash " ++ numbers pattern
  | .lineDashOffset offset => "lineDashOffset " ++ number offset
  | .fillRect x y width height => "fillRect " ++ numbers [x, y, width, height]
  | .save => "save"
  | .restore => "restore"
  | .translate x y => "translate " ++ numbers [x, y]
  | .scale x y => "scale " ++ numbers [x, y]
  | .beginPath => "beginPath"
  | .closePath => "closePath"
  | .moveTo x y => "moveTo " ++ numbers [x, y]
  | .lineTo x y => "lineTo " ++ numbers [x, y]
  | .stroke => "stroke"
  | .fill => "fill"
  | .arc x y radius fromAngle toAngle => "arc " ++ numbers [x, y, radius, fromAngle, toAngle]
  | .fillText x y text => "fillText " ++ numbers [x, y] ++ " " ++ text
  | .measureText text => "measureText " ++ text
  | .radialGradient gradient x0 y0 r0 x1 y1 r1 =>
    s!"createRadialGradient gradient{gradient} " ++ numbers [x0, y0, r0, x1, y1, r1]
  | .colorStop gradient offset color =>
    s!"gradient{gradient}.addColorStop " ++ number offset ++ " " ++ color

/-- The width of a text on the canvas: seven for each character. -/
def textWidth (text : String) : Float := 7 * Float.ofNat text.length

/-- A color with its alpha. -/
def rgba (red green blue : Nat) (alpha : Float) : String :=
  s!"rgba({red}, {green}, {blue}, " ++ number alpha ++ ")"

/-- A font of a family in the given size. -/
def fontOf (size : Float) (family : String) : String := number size ++ "px " ++ family

end Retrace
