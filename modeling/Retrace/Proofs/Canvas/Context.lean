import Mathlib.Tactic.Lemma
import Retrace.Canvas.Draw

/-!
What drawing commands leave on the canvas.

A drawing context holds a pen, the pens that were saved, and the path drawn since it was last begun.
Most commands change what it holds; four of them leave a mark, whose figure is the path, a box or a
text.

* `Context.apply`, `Context.mark?`: one command; `Context.after`, `Context.marks`: several, with
  `Context.marks_append`;
* `Draw.Leaves`: commands that leave the same figures in every context, with `Draw.Leaves.append`
  and `Draw.Leaves.flatMap`;
* `Draw.LeavesOnly`: commands all of whose marks have a property, with the same two lemmas.
-/

namespace Retrace

/-- What areas are filled with. -/
inductive Fill where
  | style (style : String)
  | gradient (gradient : Nat)
  deriving DecidableEq

/-- The settings of a drawing context, which can be saved and restored. -/
structure Pen where
  fill : Fill
  stroke : String
  font : String
  width : Float
  alpha : Float
  dash : List Float
  dashOffset : Float
  /-- How the plane has been moved and scaled, the first change first. -/
  plane : List Draw
  deriving DecidableEq

/-- What can be seen of a mark apart from the pen. -/
inductive Figure where
  /-- The path is stroked. -/
  | line (path : List Draw)
  /-- The path is filled. -/
  | area (path : List Draw)
  | box (x y width height : Float)
  | text (x y : Float) (content : String)
  deriving DecidableEq

/-- A mark on the canvas. -/
structure Mark where
  figure : Figure
  pen : Pen
  deriving DecidableEq

/-- A drawing context. -/
structure Context where
  pen : Pen
  /-- The saved pens, the latest first. -/
  saved : List Pen
  /-- The commands that the path is made of. -/
  path : List Draw

namespace Context

/-- What a command makes of a context. -/
def apply (c : Context) : Draw → Context
  | .fillStyle style => { c with pen := { c.pen with fill := .style style } }
  | .fillGradient gradient => { c with pen := { c.pen with fill := .gradient gradient } }
  | .strokeStyle stroke => { c with pen := { c.pen with stroke } }
  | .font font => { c with pen := { c.pen with font } }
  | .lineWidth width => { c with pen := { c.pen with width } }
  | .globalAlpha alpha => { c with pen := { c.pen with alpha } }
  | .lineDash dash => { c with pen := { c.pen with dash } }
  | .lineDashOffset dashOffset => { c with pen := { c.pen with dashOffset } }
  | .translate x y => { c with pen := { c.pen with plane := c.pen.plane ++ [.translate x y] } }
  | .scale x y => { c with pen := { c.pen with plane := c.pen.plane ++ [.scale x y] } }
  | .save => { c with saved := c.pen :: c.saved }
  | .restore =>
    match c.saved with
    | [] => c
    | pen :: saved => { c with pen, saved }
  | .beginPath => { c with path := [] }
  | .closePath => { c with path := c.path ++ [.closePath] }
  | .moveTo x y => { c with path := c.path ++ [.moveTo x y] }
  | .lineTo x y => { c with path := c.path ++ [.lineTo x y] }
  | .arc x y radius fromAngle toAngle =>
    { c with path := c.path ++ [.arc x y radius fromAngle toAngle] }
  | .fillRect _ _ _ _ | .stroke | .fill | .fillText _ _ _ | .measureText _ => c
  | .radialGradient _ _ _ _ _ _ _ | .colorStop _ _ _ => c

/-- The mark that a command leaves. -/
def mark? (c : Context) : Draw → Option Mark
  | .stroke => some ⟨.line c.path, c.pen⟩
  | .fill => some ⟨.area c.path, c.pen⟩
  | .fillRect x y width height => some ⟨.box x y width height, c.pen⟩
  | .fillText x y content => some ⟨.text x y content, c.pen⟩
  | _ => none

/-- What commands make of a context. -/
def after (c : Context) (draws : List Draw) : Context := draws.foldl apply c

/-- The marks that commands leave, in the order in which they are made. -/
def marks (c : Context) : List Draw → List Mark
  | [] => []
  | d :: draws => (c.mark? d).toList ++ (c.apply d).marks draws

lemma marks_append (c : Context) (xs ys : List Draw) :
    c.marks (xs ++ ys) = c.marks xs ++ (c.after xs).marks ys := by
  induction xs generalizing c with
  | nil => rfl
  | cons x xs ih =>
      rw [List.cons_append, marks, ih, marks, List.append_assoc]
      rfl

end Context

namespace Draw

/-- In every context the commands leave marks of these figures. -/
def Leaves (draws : List Draw) (figures : List Figure) : Prop :=
  ∀ c : Context, (c.marks draws).map (·.figure) = figures

lemma Leaves.append {xs ys : List Draw} {figures more : List Figure} (hxs : Leaves xs figures)
    (hys : Leaves ys more) : Leaves (xs ++ ys) (figures ++ more) := by
  intro c
  rw [Context.marks_append, List.map_append, hxs, hys]

lemma Leaves.flatMap {α : Type} {draws : α → List Draw} {figures : α → List Figure}
    (h : ∀ x, Leaves (draws x) (figures x)) (xs : List α) :
    Leaves (xs.flatMap draws) (xs.flatMap figures) := by
  induction xs with
  | nil => exact fun _ => rfl
  | cons x xs ih =>
      rw [List.flatMap_cons, List.flatMap_cons]
      exact (h x).append ih

/-- In every context all marks that the commands leave have the property. -/
def LeavesOnly (P : Mark → Prop) (draws : List Draw) : Prop :=
  ∀ c : Context, ∀ m ∈ c.marks draws, P m

variable {P : Mark → Prop}

/-- Some commands leave no mark at all. -/
lemma leavesOnly_of_marks_eq_nil {draws : List Draw} (h : ∀ c : Context, c.marks draws = []) :
    LeavesOnly P draws := by
  intro c m hm
  rw [h] at hm
  cases hm

lemma LeavesOnly.append {xs ys : List Draw} (hxs : LeavesOnly P xs) (hys : LeavesOnly P ys) :
    LeavesOnly P (xs ++ ys) := by
  intro c
  rw [Context.marks_append]
  exact List.forall_mem_append.2 ⟨hxs c, hys _⟩

lemma LeavesOnly.flatMap {α : Type} {draws : α → List Draw} (h : ∀ x, LeavesOnly P (draws x))
    (xs : List α) : LeavesOnly P (xs.flatMap draws) := by
  induction xs with
  | nil => exact leavesOnly_of_marks_eq_nil fun _ => rfl
  | cons x xs ih =>
      rw [List.flatMap_cons]
      exact (h x).append ih

end Draw

end Retrace
