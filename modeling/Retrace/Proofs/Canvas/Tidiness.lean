import Retrace.Canvas.Paint
import Retrace.Proofs.Canvas.Context

/-!
What a picture leaves behind in its drawing context.

Pictures are painted one after the other with the same context.  Each of them moves the plane,
dashes lines and dims particles, and the next one has to find nothing of it.

* `Draw.role`: what a command does to the settings that matter here; `Draw.Keeps`: it leaves a part
  of the context as it is;
* `Draw.Paired`: pens are saved and restored in turn;
* `Heed`: a context may ignore settings, but not those that undo the others;
* `Scene.role_paintLinks`, `Scene.role_paintParticle`, `Scene.role_paintTooltip`: what the parts of
  a picture are made of;
* `Context.Tidy`, `Scene.tidy_paint`: what pictures find and what they leave.
-/

namespace Retrace

namespace Draw

/-! ### What commands do -/

/-- What commands do that pictures have to undo, and which marks they leave. -/
inductive Role where
  | alpha
  | dash
  | plane
  /-- Saves a pen or restores one. -/
  | pens
  | box
  | text
  | other
  deriving DecidableEq

/-- What the command does. -/
def role : Draw → Role
  | .globalAlpha _ => .alpha
  | .lineDash _ => .dash
  | .translate _ _ | .scale _ _ => .plane
  | .save | .restore => .pens
  | .fillRect _ _ _ _ => .box
  | .fillText _ _ _ => .text
  | _ => .other

lemma forall_role_mem {roles : List Role} {draws : List Draw}
    (h : draws.all (fun d => d.role ∈ roles) = true) : ∀ d ∈ draws, d.role ∈ roles := by
  simpa using h

/-- The command leaves a part of every context as it is. -/
def Keeps {α : Type} (part : Context → α) (d : Draw) : Prop :=
  ∀ c : Context, part (c.apply d) = part c

section

variable {d : Draw} {roles : List Role} (hd : d.role ∈ roles) (hpens : .pens ∉ roles)

include hd hpens

lemma keeps_alpha (halpha : .alpha ∉ roles) : d.Keeps (·.pen.alpha) := by
  cases d with
  | globalAlpha _ => exact absurd hd halpha
  | save | restore => exact absurd hd hpens
  | _ => exact fun _ => rfl

lemma keeps_dash (hdash : .dash ∉ roles) : d.Keeps (·.pen.dash) := by
  cases d with
  | lineDash _ => exact absurd hd hdash
  | save | restore => exact absurd hd hpens
  | _ => exact fun _ => rfl

lemma keeps_plane (hplane : .plane ∉ roles) : d.Keeps (·.pen.plane) := by
  cases d with
  | translate _ _ | scale _ _ => exact absurd hd hplane
  | save | restore => exact absurd hd hpens
  | _ => exact fun _ => rfl

lemma keeps_saved : d.Keeps (·.saved) := by
  cases d with
  | save | restore => exact absurd hd hpens
  | _ => exact fun _ => rfl

end

/-! ### Saving and restoring -/

/-- How a command changes the number of saved pens. -/
def rise : Draw → Int
  | .save => 1
  | .restore => -1
  | _ => 0

/-- How many more pens commands save than they restore. -/
def depth : List Draw → Int
  | [] => 0
  | d :: draws => d.rise + depth draws

/-- Each saved pen is restored, and none is saved while another one is. -/
structure Paired (draws : List Draw) : Prop where
  single : ∀ n, 0 ≤ depth (draws.take n) ∧ depth (draws.take n) ≤ 1
  closed : depth draws = 0

lemma depth_append (xs ys : List Draw) : depth (xs ++ ys) = depth xs + depth ys := by
  induction xs with
  | nil => simp [depth]
  | cons x xs ih => rw [List.cons_append, depth, ih, depth, Int.add_assoc]

lemma rise_eq_zero {d : Draw} (hpens : d.role ≠ .pens) : d.rise = 0 := by
  cases d with
  | save | restore => exact absurd rfl hpens
  | _ => rfl

lemma depth_eq_zero {draws : List Draw} (h : ∀ d ∈ draws, d.role ≠ .pens) : depth draws = 0 := by
  induction draws with
  | nil => rfl
  | cons d draws ih =>
      obtain ⟨hd, hmore⟩ := List.forall_mem_cons.1 h
      rw [depth, rise_eq_zero hd, ih hmore, Int.add_zero]

lemma depth_take_eq_zero {draws : List Draw} (h : ∀ d ∈ draws, d.role ≠ .pens) (n : Nat) :
    depth (draws.take n) = 0 :=
  depth_eq_zero fun d hd => h d (List.mem_of_mem_take hd)

lemma depth_take_singleton (d : Draw) (n : Nat) :
    depth ([d].take n) = if n = 0 then 0 else d.rise := by
  cases n <;> simp [depth]

/-- Commands that save once and restore once are paired. -/
lemma paired_of_once {xs ys zs : List Draw} (hxs : ∀ d ∈ xs, d.role ≠ .pens)
    (hys : ∀ d ∈ ys, d.role ≠ .pens) (hzs : ∀ d ∈ zs, d.role ≠ .pens) :
    Paired (xs ++ [.save] ++ ys ++ [.restore] ++ zs) where
  single n := by
    simp only [List.take_append, depth_append, depth_take_eq_zero hxs, depth_take_eq_zero hys,
      depth_take_eq_zero hzs, depth_take_singleton, List.length_append, List.length_singleton, rise]
    split <;> split <;> omega
  closed := by
    simp only [depth_append, depth_eq_zero hxs, depth_eq_zero hys, depth_eq_zero hzs, depth, rise]
    rfl

end Draw

namespace Context

/-! ### What several commands leave as it is -/

variable {α : Type} {f : Context → α} {draws : List Draw} {c : Context}

lemma after_append (c : Context) (xs ys : List Draw) :
    c.after (xs ++ ys) = (c.after xs).after ys := List.foldl_append ..

lemma after_of_keeps (h : ∀ d ∈ draws, d.Keeps f) (c : Context) :
    f (c.after draws) = f c := by
  induction draws generalizing c with
  | nil => rfl
  | cons d draws ih =>
      obtain ⟨hd, hmore⟩ := List.forall_mem_cons.1 h
      exact (ih hmore (c.apply d)).trans (hd c)

/-- A mark is made by one of the commands, and with a pen of which a part is as it was if all
commands leave it as it is. -/
lemma exists_of_mem_marks {m : Mark} (hm : m ∈ c.marks draws) :
    ∃ d ∈ draws, ∃ c' : Context, c'.mark? d = some m ∧
      ∀ {α : Type} {part : Pen → α}, (∀ d ∈ draws, d.Keeps fun c => part c.pen) →
        part m.pen = part c.pen := by
  induction draws generalizing c with
  | nil => cases hm
  | cons d draws ih =>
      rw [marks, List.mem_append, Option.mem_toList] at hm
      rcases hm with hm | hm
      · refine ⟨d, List.mem_cons_self, c, hm, fun _ => ?_⟩
        cases d <;> cases hm <;> rfl
      · obtain ⟨e, he, c', hc', hpart⟩ := ih hm
        refine ⟨e, List.mem_cons_of_mem d he, c', hc', fun h => ?_⟩
        obtain ⟨hd, hmore⟩ := List.forall_mem_cons.1 h
        exact (hpart hmore).trans (hd c)

/-- A box is left by a rectangle. -/
lemma role_of_box {d : Draw} {m : Mark} {x y width height : Float} (h : c.mark? d = some m)
    (hbox : m.figure = .box x y width height) : d.role = .box := by
  cases d <;> cases h <;> cases hbox
  rfl

/-- A text is left by a text. -/
lemma role_of_text {d : Draw} {m : Mark} {x y : Float} {content : String}
    (h : c.mark? d = some m) (htext : m.figure = .text x y content) : d.role = .text := by
  cases d <;> cases h <;> cases htext
  rfl

end Context

/-! ### Contexts that ignore settings -/

/-- Which commands a context heeds.  It may ignore any setting, such as an alpha beyond one, except
for those that undo the others. -/
structure Heed where
  heeds : Draw → Bool
  save : heeds .save = true
  restore : heeds .restore = true
  full : heeds (.globalAlpha 1) = true
  solid : heeds (.lineDash []) = true

namespace Heed

/-- The settings that a drawing context takes: alphas from zero to one, dashes that are not
negative, lines with a width, and all of them finite. -/
def valid : Heed where
  heeds
    | .globalAlpha alpha => 0 ≤ alpha && alpha ≤ 1
    | .lineDash pattern => pattern.all fun x => 0 ≤ x && x.isFinite
    | .lineDashOffset offset => offset.isFinite
    | .lineWidth width => 0 < width && width.isFinite
    | .translate x y | .scale x y => x.isFinite && y.isFinite
    | _ => true
  save := rfl
  restore := rfl
  full := by decide
  solid := rfl

/-- The commands that are heeded. -/
def kept (h : Heed) (draws : List Draw) : List Draw := draws.filter h.heeds

variable (h : Heed)

@[simp] lemma kept_append (xs ys : List Draw) : h.kept (xs ++ ys) = h.kept xs ++ h.kept ys :=
  List.filter_append ..

/-- An alpha beyond one leaves the alpha as it is. -/
example : valid.kept [.globalAlpha 0.5, .globalAlpha 1.5, .fill] = [.globalAlpha 0.5, .fill] := by
  decide

lemma forall_mem_kept {P : Draw → Prop} {draws : List Draw} (hall : ∀ d ∈ draws, P d) :
    ∀ d ∈ h.kept draws, P d :=
  fun d hd => hall d (List.mem_filter.1 hd).1

end Heed

namespace Scene

variable (s : Scene) (v : Visual)

/-! ### What pictures are made of -/

lemma role_paintLink (l : Link) (span : Span) :
    ∀ d ∈ s.paintLink l span, d.role ∈ [.dash, .text, .other] := by
  rw [paintLink]
  refine Draw.forall_role_mem ?_
  by_cases htext : s.showEdgeLabels && l.label ≠ "" && s.transform.k > 0.5
  · rw [if_pos htext]
    rfl
  · rw [if_neg htext]
    rfl

lemma role_paintLinks : ∀ d ∈ s.paintLinks v, d.role ∈ [.dash, .text, .other] := by
  intro d hd
  rw [paintLinks, List.mem_append, List.mem_flatMap, List.mem_singleton] at hd
  rcases hd with ⟨x, -, hd⟩ | rfl
  · exact s.role_paintLink x.1 x.2 d hd
  · exact List.mem_cons_self

/-- A particle is painted with alphas of its own, and its number with the full one. -/
lemma exists_paintParticle_eq (p : Particle) (i gradient : Nat) :
    ∃ picture number, s.paintParticle v p i gradient = picture ++ .globalAlpha 1 :: number
      ∧ (∀ d ∈ picture, d.role ∈ [.alpha, .other]) ∧ ∀ d ∈ number, d.role ∈ [.text, .other] := by
  refine ⟨_, _, rfl, Draw.forall_role_mem ?_, Draw.forall_role_mem rfl⟩
  split <;> split <;> split <;> rfl

lemma role_paintParticle (p : Particle) (i gradient : Nat) :
    ∀ d ∈ s.paintParticle v p i gradient, d.role ∈ [.alpha, .text, .other] := by
  obtain ⟨picture, number, heq, hpicture, hnumber⟩ := s.exists_paintParticle_eq v p i gradient
  have hfirst : [Draw.Role.alpha, .other] ⊆ [.alpha, .text, .other] := by decide
  have hlast : [Draw.Role.text, .other] ⊆ [.alpha, .text, .other] := by decide
  rw [heq]
  exact List.forall_mem_append.2 ⟨fun d hd => hfirst (hpicture d hd),
    List.forall_mem_cons.2 ⟨by decide, fun d hd => hlast (hnumber d hd)⟩⟩

lemma role_paintParticles (gradient : Nat) (ps : List (Particle × Nat)) :
    ∀ d ∈ s.paintParticles v gradient ps, d.role ∈ [.alpha, .text, .other] := by
  induction ps generalizing gradient with
  | nil => nofun
  | cons q ps ih =>
      exact List.forall_mem_append.2 ⟨s.role_paintParticle v q.1 q.2 gradient, ih _⟩

lemma role_paintTooltip : ∀ d ∈ s.paintTooltip v, d.role ∈ [.box, .text, .other] := by
  rw [paintTooltip]
  refine Draw.forall_role_mem ?_
  split
  · rfl
  · split <;> rfl

variable {s v} (h : Heed) (c : Context)

/-! ### The parts of a picture -/

lemma alpha_of_mem_paintLinks {m : Mark} (hm : m ∈ c.marks (h.kept (s.paintLinks v))) :
    m.pen.alpha = c.pen.alpha := by
  have hroles := h.forall_mem_kept (s.role_paintLinks v)
  obtain ⟨-, -, -, -, hpart⟩ := Context.exists_of_mem_marks hm
  exact hpart fun d hd => Draw.keeps_alpha (hroles d hd) (by decide) (by decide)

/-- Particles are painted with the lines that they find, leave the full alpha, and have their
numbers written with it. -/
lemma alpha_paintParticle (p : Particle) (i gradient : Nat) :
    (c.after (h.kept (s.paintParticle v p i gradient))).pen.alpha = 1
      ∧ ∀ m ∈ c.marks (h.kept (s.paintParticle v p i gradient)), ∀ x y content,
          m.figure = .text x y content → m.pen.alpha = 1 := by
  obtain ⟨picture, number, heq, hpicture, hnumber⟩ := s.exists_paintParticle_eq v p i gradient
  have hkept : h.kept (s.paintParticle v p i gradient)
      = h.kept picture ++ .globalAlpha 1 :: h.kept number := by
    simp [heq, Heed.kept, h.full]
  have halpha : ∀ d ∈ h.kept number, d.Keeps (·.pen.alpha) := fun d hd =>
    Draw.keeps_alpha (h.forall_mem_kept hnumber d hd) (by decide) (by decide)
  rw [hkept]
  constructor
  · rw [Context.after_append]
    exact Context.after_of_keeps halpha _
  · intro m hm x y content htext
    rw [Context.marks_append, List.mem_append] at hm
    rcases hm with hm | hm
    · obtain ⟨d, hd, c', hmark, -⟩ := Context.exists_of_mem_marks hm
      have hrole := h.forall_mem_kept hpicture d hd
      rw [Context.role_of_text hmark htext] at hrole
      exact absurd hrole (by decide)
    · obtain ⟨-, -, -, -, hpart⟩ := Context.exists_of_mem_marks
        (c := (c.after (h.kept picture)).apply (.globalAlpha 1)) hm
      exact hpart halpha

/-- So do several particles, one after the other. -/
lemma alpha_paintParticles (gradient : Nat) (ps : List (Particle × Nat)) (hc : c.pen.alpha = 1) :
    (c.after (h.kept (s.paintParticles v gradient ps))).pen.alpha = 1
      ∧ ∀ m ∈ c.marks (h.kept (s.paintParticles v gradient ps)), ∀ x y content,
          m.figure = .text x y content → m.pen.alpha = 1 := by
  induction ps generalizing gradient c with
  | nil => exact ⟨hc, nofun⟩
  | cons q ps ih =>
      obtain ⟨halpha, hnumber⟩ := alpha_paintParticle (v := v) h c q.1 q.2 gradient
      obtain ⟨hafter, hmore⟩ := ih _ (if s.glows q.2 then gradient + 1 else gradient) halpha
      rw [paintParticles, h.kept_append, Context.after_append, Context.marks_append]
      exact ⟨hafter, List.forall_mem_append.2 ⟨hnumber, hmore⟩⟩

end Scene

/-! ### Pictures one after the other -/

namespace Context

/-- A context before anything is drawn. -/
def fresh : Context where
  pen := ⟨.style "#000000", "#000000", "10px sans-serif", 1, 1, [], 0, []⟩
  saved := []
  path := []

/-- Nothing is dimmed, dashed or moved, and no pen is saved. -/
structure Tidy (c : Context) : Prop where
  alpha : c.pen.alpha = 1
  dash : c.pen.dash = []
  plane : c.pen.plane = []
  saved : c.saved = []

/-- Nothing is dimmed or dashed, but the plane may be moved, and the pen that is saved knows nothing
of that. -/
structure Moved (c : Context) : Prop where
  alpha : c.pen.alpha = 1
  dash : c.pen.dash = []
  saved : ∃ pen, c.saved = [pen] ∧ pen.alpha = 1 ∧ pen.dash = [] ∧ pen.plane = []

lemma tidy_fresh : fresh.Tidy := ⟨rfl, rfl, rfl, rfl⟩

variable {c : Context} {draws : List Draw}

section

variable (hc : c.Tidy) (hroles : ∀ d ∈ draws, d.role ∈ [.box, .text, .other])

include hc hroles

lemma Tidy.after : (c.after draws).Tidy where
  alpha := (after_of_keeps
    (fun d hd => Draw.keeps_alpha (hroles d hd) (by decide) (by decide)) c).trans hc.alpha
  dash := (after_of_keeps
    (fun d hd => Draw.keeps_dash (hroles d hd) (by decide) (by decide)) c).trans hc.dash
  plane := (after_of_keeps
    (fun d hd => Draw.keeps_plane (hroles d hd) (by decide) (by decide)) c).trans hc.plane
  saved := (after_of_keeps
    (fun d hd => Draw.keeps_saved (hroles d hd) (by decide)) c).trans hc.saved

lemma Tidy.of_mem_marks {m : Mark} (hm : m ∈ c.marks draws) :
    m.pen.alpha = 1 ∧ m.pen.plane = [] := by
  obtain ⟨-, -, -, -, hpart⟩ := exists_of_mem_marks hm
  constructor
  · rw [← hc.alpha]
    exact hpart fun d hd => Draw.keeps_alpha (hroles d hd) (by decide) (by decide)
  · rw [← hc.plane]
    exact hpart fun d hd => Draw.keeps_plane (hroles d hd) (by decide) (by decide)

end

/-- To move the plane a tidy pen is saved. -/
lemma Tidy.move (hc : c.Tidy) (hroles : ∀ d ∈ draws, d.role ∈ [.plane]) :
    ((c.apply .save).after draws).Moved where
  alpha := (after_of_keeps
    (fun d hd => Draw.keeps_alpha (hroles d hd) (by decide) (by decide)) _).trans hc.alpha
  dash := (after_of_keeps
    (fun d hd => Draw.keeps_dash (hroles d hd) (by decide) (by decide)) _).trans hc.dash
  saved := by
    refine ⟨c.pen, ?_, hc.alpha, hc.dash, hc.plane⟩
    rw [after_of_keeps (f := (·.saved)) fun d hd => Draw.keeps_saved (hroles d hd) (by decide)]
    exact congrArg (c.pen :: ·) hc.saved

/-- The pen that comes back is tidy, whatever has been drawn since. -/
lemma Moved.restore (hc : c.Moved) : (c.apply .restore).Tidy := by
  obtain ⟨pen, hsaved, halpha, hdash, hplane⟩ := hc.saved
  rw [apply, hsaved]
  exact ⟨halpha, hdash, hplane, rfl⟩

/-- The last command of the links makes lines solid again. -/
lemma Moved.paintLinks (hc : c.Moved) (h : Heed) (s : Scene) (v : Visual) :
    (c.after (h.kept (s.paintLinks v))).Moved := by
  have hroles := h.forall_mem_kept (s.role_paintLinks v)
  refine ⟨?_, ?_, ?_⟩
  · rw [after_of_keeps (f := (·.pen.alpha)) fun d hd =>
      Draw.keeps_alpha (hroles d hd) (by decide) (by decide)]
    exact hc.alpha
  · have hsolid : h.kept [.lineDash []] = [.lineDash []] := by simp [Heed.kept, h.solid]
    rw [Scene.paintLinks, h.kept_append, hsolid, after_append]
    rfl
  · rw [after_of_keeps (f := (·.saved)) fun d hd => Draw.keeps_saved (hroles d hd) (by decide)]
    exact hc.saved

lemma Moved.paintParticles (hc : c.Moved) (h : Heed) (s : Scene) (v : Visual)
    (gradient : Nat) (ps : List (Particle × Nat)) :
    (c.after (h.kept (s.paintParticles v gradient ps))).Moved := by
  have hroles := h.forall_mem_kept (s.role_paintParticles v gradient ps)
  refine ⟨(Scene.alpha_paintParticles h c gradient ps hc.alpha).1, ?_, ?_⟩
  · rw [after_of_keeps (f := (·.pen.dash)) fun d hd =>
      Draw.keeps_dash (hroles d hd) (by decide) (by decide)]
    exact hc.dash
  · rw [after_of_keeps (f := (·.saved)) fun d hd =>
      Draw.keeps_saved (hroles d hd) (by decide)]
    exact hc.saved

end Context

namespace Scene

/-- The background of a picture. -/
def ground (s : Scene) : List Draw := [.fillStyle background, .fillRect 0 0 s.width s.height]

/-- How the plane of a picture is moved. -/
def moves (s : Scene) : List Draw :=
  [.translate s.transform.x s.transform.y, .scale s.transform.k s.transform.k]

/-- What is painted while the plane is moved. -/
def inPlane (s : Scene) (v : Visual) : List Draw :=
  s.moves ++ s.paintLinks v ++ s.paintParticles v 1 (s.paintOrder v)

variable {s : Scene} {v : Visual} {c : Context}

lemma paint_eq (s : Scene) (v : Visual) : s.paint v
    = s.ground ++ [.save] ++ s.inPlane v ++ [.restore] ++ s.paintTooltip v := by
  simp [paint, inPlane, ground, moves]

lemma role_ground (s : Scene) : ∀ d ∈ s.ground, d.role ∈ [.box, .text, .other] :=
  Draw.forall_role_mem rfl

lemma role_moves (s : Scene) : ∀ d ∈ s.moves, d.role ∈ [.plane] := Draw.forall_role_mem rfl

/-- In the moved plane no pen is saved and no box is painted. -/
lemma role_inPlane (s : Scene) (v : Visual) :
    ∀ d ∈ s.inPlane v, d.role ∈ [.alpha, .dash, .plane, .text, .other] := by
  have hmoves : [Draw.Role.plane] ⊆ [.alpha, .dash, .plane, .text, .other] := by decide
  have hlinks : [Draw.Role.dash, .text, .other] ⊆ [.alpha, .dash, .plane, .text, .other] := by
    decide
  have hparticles : [Draw.Role.alpha, .text, .other] ⊆ [.alpha, .dash, .plane, .text, .other] := by
    decide
  intro d hd
  rw [inPlane, List.mem_append, List.mem_append] at hd
  rcases hd with (hd | hd) | hd
  · exact hmoves (s.role_moves d hd)
  · exact hlinks (s.role_paintLinks v d hd)
  · exact hparticles (s.role_paintParticles v _ _ d hd)

lemma paired_paint (s : Scene) (v : Visual) : Draw.Paired (s.paint v) := by
  have hpens {roles : List Draw.Role} {draws : List Draw} (hroles : ∀ d ∈ draws, d.role ∈ roles)
      (h : .pens ∉ roles) : ∀ d ∈ draws, d.role ≠ .pens := fun d hd heq => h (heq ▸ hroles d hd)
  rw [paint_eq]
  exact Draw.paired_of_once (hpens s.role_ground (by decide)) (hpens (s.role_inPlane v) (by decide))
    (hpens (s.role_paintTooltip v) (by decide))

section

variable (hc : c.Tidy) (h : Heed)

include hc

lemma moved_moves : (c.after (h.kept (s.ground ++ [.save] ++ s.moves))).Moved := by
  have hsave : h.kept [.save] = [.save] := by simp [Heed.kept, h.save]
  rw [h.kept_append, h.kept_append, hsave, Context.after_append, Context.after_append]
  exact (hc.after (h.forall_mem_kept s.role_ground)).move (h.forall_mem_kept s.role_moves)

/-- The pen is tidy again when the tooltip is painted. -/
lemma tidy_restore :
    (c.after (h.kept (s.ground ++ [.save] ++ s.inPlane v ++ [.restore]))).Tidy := by
  have hrestore : h.kept [.restore] = [.restore] := by simp [Heed.kept, h.restore]
  have hmoved := ((moved_moves (s := s) hc h).paintLinks h s v).paintParticles h s v 1
    (s.paintOrder v)
  rw [← Context.after_append, ← Context.after_append, ← h.kept_append, ← h.kept_append,
    List.append_assoc, List.append_assoc, ← List.append_assoc s.moves] at hmoved
  rw [h.kept_append, hrestore, Context.after_append]
  exact hmoved.restore

lemma tidy_after_paint : (c.after (h.kept (s.paint v))).Tidy := by
  rw [paint_eq, h.kept_append, Context.after_append]
  exact (tidy_restore hc h).after (h.forall_mem_kept (s.role_paintTooltip v))

/-- The background and the tooltip are the only boxes. -/
lemma tidy_of_box {m : Mark} {x y width height : Float} (hm : m ∈ c.marks (h.kept (s.paint v)))
    (hbox : m.figure = .box x y width height) : m.pen.alpha = 1 ∧ m.pen.plane = [] := by
  have hplane : ∀ d ∈ [.save] ++ (s.inPlane v ++ [.restore]), d.role ≠ .box := by
    intro d hd heq
    simp only [List.mem_append, List.mem_singleton] at hd
    rcases hd with rfl | hd | rfl
    · cases heq
    · exact absurd (heq ▸ s.role_inPlane v d hd) (by decide)
    · cases heq
  rw [paint_eq, h.kept_append, Context.marks_append, List.mem_append] at hm
  rcases hm with hm | hm
  · rw [List.append_assoc, List.append_assoc, h.kept_append, Context.marks_append,
      List.mem_append] at hm
    rcases hm with hm | hm
    · exact hc.of_mem_marks (h.forall_mem_kept s.role_ground) hm
    · obtain ⟨d, hd, c', hmark, -⟩ := Context.exists_of_mem_marks hm
      exact absurd (Context.role_of_box hmark hbox) (h.forall_mem_kept hplane d hd)
  · exact (tidy_restore hc h).of_mem_marks (h.forall_mem_kept (s.role_paintTooltip v)) hm

end

/-- Whatever was painted before, a context is tidy after whole pictures. -/
lemma tidy_pictures (h : Heed) (pictures : List (Scene × Visual)) (hc : c.Tidy) :
    (c.after (h.kept (pictures.flatMap fun p => p.1.paint p.2))).Tidy := by
  induction pictures generalizing c with
  | nil => exact hc
  | cons p pictures ih =>
      rw [List.flatMap_cons, h.kept_append, Context.after_append]
      exact ih (tidy_after_paint hc h)

/-- **Pictures leave nothing behind.**  After any pictures the context, even one that ignores
settings, has the full alpha, solid lines and the plane as it was at first.  The next picture saves
one pen and restores it.  Its boxes, the background and the tooltip, are painted with the full alpha
and the plane as it was; its links with the full alpha; its particles with solid lines, and their
numbers with the full alpha. -/
theorem tidy_paint (h : Heed) (pictures : List (Scene × Visual)) (s : Scene) (v : Visual) :
    let c := Context.fresh.after (h.kept (pictures.flatMap fun p => p.1.paint p.2))
    let atLinks := c.after (h.kept (s.ground ++ [.save] ++ s.moves))
    let atParticles := atLinks.after (h.kept (s.paintLinks v))
    c.Tidy ∧ (c.after (h.kept (s.paint v))).Tidy
    ∧ Draw.Paired (s.paint v)
    ∧ s.paint v = s.ground ++ [.save] ++ s.moves ++ s.paintLinks v
        ++ s.paintParticles v 1 (s.paintOrder v) ++ [.restore] ++ s.paintTooltip v
    ∧ (∀ m ∈ c.marks (h.kept (s.paint v)), ∀ x y width height,
        m.figure = .box x y width height → m.pen.alpha = 1 ∧ m.pen.plane = [])
    ∧ (∀ m ∈ atLinks.marks (h.kept (s.paintLinks v)), m.pen.alpha = 1)
    ∧ ∀ m ∈ atParticles.marks (h.kept (s.paintParticles v 1 (s.paintOrder v))),
        m.pen.dash = [] ∧ ∀ x y content, m.figure = .text x y content → m.pen.alpha = 1 := by
  intro c atLinks atParticles
  have hc : c.Tidy := tidy_pictures h pictures Context.tidy_fresh
  have hlinks : atLinks.Moved := moved_moves hc h
  have hparticles : atParticles.Moved := hlinks.paintLinks h s v
  have hparts : s.paint v = s.ground ++ [.save] ++ s.moves ++ s.paintLinks v
      ++ s.paintParticles v 1 (s.paintOrder v) ++ [.restore] ++ s.paintTooltip v := by
    rw [paint_eq, inPlane]
    simp only [List.append_assoc]
  refine ⟨hc, tidy_after_paint hc h, paired_paint s v, hparts,
    fun m hm x y width height hbox => tidy_of_box hc h hm hbox,
    fun m hm => (alpha_of_mem_paintLinks h atLinks hm).trans hlinks.alpha, fun m hm => ⟨?_, ?_⟩⟩
  · have hroles := h.forall_mem_kept (s.role_paintParticles v 1 (s.paintOrder v))
    obtain ⟨-, -, -, -, hpart⟩ := Context.exists_of_mem_marks hm
    rw [← hparticles.dash]
    exact hpart fun d hd => Draw.keeps_dash (hroles d hd) (by decide) (by decide)
  · exact (alpha_paintParticles h atParticles 1 (s.paintOrder v) hparticles.alpha).2 m hm

end Scene

end Retrace
