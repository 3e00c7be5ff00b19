import Mathlib.Data.List.Permutation
import Retrace.Proofs.Canvas.Figures
import Retrace.Proofs.Canvas.Tidiness
import Retrace.Proofs.Scene.Focus
import Retrace.Proofs.Scene.Precision

/-!
Nothing is dimmed without a focus.

What is not highlighted is dimmed by the strength of the highlight.  That strength outlasts moves
from particle to particle and departures, and the focus is forgotten in two places; yet whenever
there is none, the strength is zero.

* `Hover.Settled`: without a focus there is no highlight; `Scene.settled_setHover`,
  `Hover.Settled.pass` and with them `Scene.settled_reactAll`: this stays so;
* `Scene.Undimmed`: a picture in which links and particles have their plain colors, widths, sizes
  and alphas; `Scene.Calm`, `Scene.Calm.undimmed`: the picture of a scene without a focus and
  without a highlight;
* `Scene.undimmed_reactAll`: pictures after any visits of the pointer and any waiting.
-/

namespace Retrace

/-! ### Without a focus there is no highlight -/

namespace Hover

/-- Without a focus there is no highlight. -/
def Settled (h : Hover) : Prop := h.node = none → h.previous = none → h.highlight = 0

lemma settled_idle : idle.Settled := fun _ _ => rfl

/-- A highlight that is gone does not come back by fading. -/
lemma approach_zero {dt : Float} (hdt : dt.isFinite) : approach 0 0 1.26 dt = 0 := by
  have hrate : (0 - 0 : Float) * 1.26 = 0 := by decide
  rw [approach, hrate]
  rcases Precision.zero_mul_eq hdt with hzero | hzero <;> rw [hzero] <;> decide

/-- A fading highlight is zero when its focus is forgotten, and stays zero. -/
lemma Settled.pass {h : Hover} {dt : Float} (hh : h.Settled) (hdt : dt.isFinite) :
    (h.pass dt).Settled := by
  unfold Hover.pass
  dsimp only
  split
  · case isTrue hnode =>
      intro hnone _
      rw [hnone] at hnode
      cases hnode
  · split
    · exact fun _ _ => rfl
    · case isFalse hfaint =>
        intro hnode hprevious
        rw [hh hnode hprevious, approach_zero hdt] at hfaint
        exact absurd (by decide) hfaint

/-- The highlight would be lost by a time that is not a number. -/
example : (idle.pass (0 / 0)).highlight ≠ 0 := by decide

end Hover

namespace Scene

variable {s t : Scene} {v : Visual}

/-- The focus that the pointer leaves for the open plane is kept; only a new one takes its place. -/
lemma settled_setHover (h : s.hover.Settled) (node : Option Nat) :
    (s.setHover node).hover.Settled := by
  unfold setHover
  dsimp only
  split
  · exact h
  · case isFalse hne =>
      cases node with
      | none => exact fun _ hprevious => absurd hprevious hne
      | some i => exact fun hnone => absurd hnone (Option.some_ne_none i)

/-- Time passes for the highlight by as much as for the particles. -/
lemma hover_tick {dt : Float32} (h : s.tick dt = .ok t) :
    t.hover = s.hover.pass (Precision.widen dt) ∧ t.transform = s.transform := by
  rw [tick, settle] at h
  cases hadvance : Simulation.advance s.springs dt (s.particles.map (·.body)) with
  | error f =>
      rw [hadvance] at h
      cases h
  | ok bodies =>
      rw [hadvance] at h
      obtain rfl := Except.ok.inj h
      exact ⟨rfl, rfl⟩

/-- One event leaves the highlight settled and the plane where it is. -/
lemma settled_react {e : HoverEvent} (hfinite : ∀ dt, e = .wait dt → dt.isFinite)
    (hs : s.hover.Settled) (h : s.react e = .ok t) :
    t.hover.Settled ∧ t.transform = s.transform := by
  cases e with
  | point node =>
      obtain rfl := Except.ok.inj h
      obtain ⟨hover, hset⟩ := s.exists_setHover node
      exact ⟨settled_setHover hs node, by rw [hset]⟩
  | wait dt =>
      obtain ⟨hhover, htransform⟩ := hover_tick h
      rw [hhover]
      exact ⟨hs.pass (Precision.isFinite_widen (hfinite dt rfl)), htransform⟩

/-- So do several events. -/
lemma settled_reactAll {events : List HoverEvent}
    (hfinite : ∀ dt, .wait dt ∈ events → dt.isFinite) (hs : s.hover.Settled)
    (h : s.reactAll events = .ok t) : t.hover.Settled ∧ t.transform = s.transform := by
  induction events generalizing s with
  | nil =>
      cases h
      exact ⟨hs, rfl⟩
  | cons e events ih =>
      obtain ⟨next, hnext, hmore⟩ := exists_react_of_reactAll_cons h
      obtain ⟨hsettled, htransform⟩ :=
        settled_react (fun dt hdt => hfinite dt (hdt ▸ List.mem_cons_self)) hs hnext
      rw [← htransform]
      exact ih (fun dt hdt => hfinite dt (List.mem_cons_of_mem e hdt)) hsettled hmore

end Scene

/-! ### Pictures without a focus -/

/-- A mark of a link, in the color and the width that it has when nothing is highlighted and the
plane is scaled by the given number. -/
def Mark.PlainLink (k : Float) (m : Mark) : Prop :=
  match m.figure with
  | .line _ => m.pen.stroke = Scene.linkColor 0.6 ∧ m.pen.width = 1.5 / k
  | .area _ => m.pen.fill = .style (Scene.linkColor 0.8)
  | .text _ _ _ => m.pen.fill = .style (Scene.paleColor 0.6)
  | .box _ _ _ _ => False

/-- A mark of a particle, with the alpha that it has when nothing is highlighted. -/
def Mark.PlainParticle (m : Mark) : Prop :=
  m.pen.alpha = 1 ∧ ∀ x y content, m.figure = .text x y content →
    m.pen.fill = .style (Scene.white 0.9)

namespace Scene

variable {s : Scene} {v : Visual}

/-- What a particle consists of when nothing is highlighted: its disc, its rings and its number. -/
def plainFigures (s : Scene) (v : Visual) (p : Particle) : List Figure :=
  let stop : List Figure := if p.info.id ∈ v.stopped then [.line (circle p nodeRadius)] else []
  let newest : List Figure :=
    if s.newest = some p.info.id then [.line (circle p (nodeRadius + 3 / s.transform.k))] else []
  let number : Figure := .text (p.x + nodeRadius + 3) (p.y + 3) (toString p.info.id)
  .area (circle p nodeRadius) :: (stop ++ newest ++ [number])

/-- Nothing in the picture is dimmed, and nothing is highlighted. -/
structure Undimmed (s : Scene) (v : Visual) : Prop where
  /-- Nothing of what the pointer has been on can be seen. -/
  picture : s.paint v = { s with hover := .idle }.paint v
  /-- Links are painted with the alpha that there is. -/
  links : ∀ c : Context, ∀ m ∈ c.marks (s.paintLinks v),
    m.pen.alpha = c.pen.alpha ∧ m.PlainLink s.transform.k
  figures : Draw.Leaves (s.paintParticles v 1 (s.paintOrder v))
    ((s.shown v).flatMap fun q => s.plainFigures v q.1)
  particles : Draw.LeavesOnly Mark.PlainParticle (s.paintParticles v 1 (s.paintOrder v))

/-- There is no focus and no highlight. -/
structure Calm (s : Scene) : Prop where
  focus : s.hasFocus = false
  highlight : s.hover.highlight = 0
  plain : ∀ i, s.isHighlighted i = false

lemma calm_idle (s : Scene) : Calm { s with hover := .idle } := ⟨rfl, rfl, fun _ => rfl⟩

lemma none_of_hasFocus (h : s.hasFocus = false) :
    s.hover.node = none ∧ s.hover.previous = none := by
  simpa [hasFocus] using h

lemma calm_of_settled {joined : Nat → Nat → Prop} (hdescribes : s.hover.Describes joined)
    (hsettled : s.hover.Settled) (hfocus : s.hasFocus = false) : s.Calm where
  focus := hfocus
  highlight := hsettled (none_of_hasFocus hfocus).1 (none_of_hasFocus hfocus).2
  plain := (hasFocus_eq_false_iff hdescribes).1 hfocus

namespace Calm

variable (h : s.Calm)

include h

lemma emphasis_eq : s.emphasis = 0 := by
  rw [emphasis, h.highlight]
  decide

lemma inFront_eq (i : Nat) : s.inFront i = false := by rw [inFront, h.focus, Bool.false_and]

lemma lookOf_eq (i : Nat) : s.lookOf i = ⟨1, nodeRadius, 0⟩ := by
  have halpha : (1 - 0.7 * 0 : Float) = 1 := by decide
  have hradius : nodeRadius * (1 - 0.15 * 0) = nodeRadius := by decide
  simp only [lookOf, h.inFront_eq, h.emphasis_eq, halpha, hradius]
  rfl

lemma glows_eq (i : Nat) : s.glows i = false := by
  rw [glows, h.lookOf_eq, h.emphasis_eq]
  decide

/-- Nothing is put in front. -/
lemma paintOrder_eq_shown (v : Visual) : s.paintOrder v = s.shown v := by
  rw [paintOrder, h.focus, if_neg Bool.false_ne_true, List.append_nil, pass_eq]
  exact List.filter_eq_self.2 fun q _ => by rw [h.inFront_eq, beq_self_eq_true]

/-! ### The parts of the picture -/

lemma paintLink_eq (l : Link) (span : Span) :
    s.paintLink l span = { s with hover := .idle }.paintLink l span := by
  simp only [paintLink, h.emphasis_eq, h.plain, (calm_idle s).emphasis_eq, (calm_idle s).plain]

lemma paintParticle_eq (v : Visual) (p : Particle) (i gradient : Nat) :
    s.paintParticle v p i gradient = { s with hover := .idle }.paintParticle v p i gradient := by
  simp only [paintParticle, h.glows_eq, h.lookOf_eq, (calm_idle s).glows_eq,
    (calm_idle s).lookOf_eq, Bool.false_eq_true, if_false]

lemma paintParticles_eq (v : Visual) (gradient : Nat) (ps : List (Particle × Nat)) :
    s.paintParticles v gradient ps = { s with hover := .idle }.paintParticles v gradient ps := by
  induction ps generalizing gradient with
  | nil => rfl
  | cons q ps ih =>
      rw [paintParticles, paintParticles, h.paintParticle_eq, h.glows_eq, (calm_idle s).glows_eq,
        ih]

lemma paint_eq_idle (v : Visual) : s.paint v = { s with hover := .idle }.paint v := by
  have hlinks : s.paintLinks v = { s with hover := .idle }.paintLinks v := by
    rw [paintLinks, paintLinks]
    simp only [h.paintLink_eq]
    rfl
  have htooltip : s.paintTooltip v = [] := by
    rw [paintTooltip, (none_of_hasFocus h.focus).1]
    rfl
  rw [paint, paint, hlinks, htooltip, h.paintParticles_eq, h.paintOrder_eq_shown,
    (calm_idle s).paintOrder_eq_shown]
  rfl

lemma leavesOnly_paintLinks (hk : s.transform.k = 0.75) (v : Visual) :
    Draw.LeavesOnly (Mark.PlainLink s.transform.k) (s.paintLinks v) := by
  have hline : (0.6 - 0.45 * 0 : Float) = 0.6 := by decide
  have harrow : (0.8 - 0.45 * 0 : Float) = 0.8 := by decide
  have hwidth : (1.5 / s.transform.k * (1 - 0.3 * 0) : Float) = 1.5 / s.transform.k := by
    rw [hk]
    decide
  refine (Draw.LeavesOnly.flatMap (fun q => ?_) _).append
    (Draw.leavesOnly_of_marks_eq_nil fun _ => rfl)
  simp only [paintLink, h.plain, h.emphasis_eq, Bool.and_self, Bool.false_eq_true, if_false, hline,
    harrow, hwidth]
  -- the line, the head and the label, each of which sets what its mark is made with
  refine .append (.append ?_ ?_) ?_
  · exact fun c => List.forall_mem_singleton.2 ⟨rfl, rfl⟩
  · exact fun c => List.forall_mem_singleton.2 rfl
  · split
    · exact fun c => List.forall_mem_singleton.2 rfl
    · exact Draw.leavesOnly_of_marks_eq_nil fun _ => rfl

lemma leavesOnly_paintParticles (v : Visual) (gradient : Nat) (ps : List (Particle × Nat)) :
    Draw.LeavesOnly Mark.PlainParticle (s.paintParticles v gradient ps) := by
  have hnumber : (1 * 0.9 : Float) = 0.9 := by decide
  induction ps generalizing gradient with
  | nil => exact Draw.leavesOnly_of_marks_eq_nil fun _ => rfl
  | cons q ps ih =>
      refine Draw.LeavesOnly.append ?_ (ih _)
      simp only [paintParticle, h.glows_eq, h.lookOf_eq, hnumber, Bool.false_eq_true, if_false,
        List.nil_append]
      split <;> split <;>
        simp [Draw.LeavesOnly, Context.marks, Context.mark?, Context.apply, Mark.PlainParticle]

lemma particleFigures_eq (v : Visual) (p : Particle) (i : Nat) :
    s.particleFigures v p i = s.plainFigures v p := by
  simp [particleFigures, plainFigures, disc, numeral, h.glows_eq, h.lookOf_eq]

end Calm

/-- Without a focus a picture is not dimmed, however the highlight has come and gone. -/
lemma Calm.undimmed (h : s.Calm) (hk : s.transform.k = 0.75) (v : Visual) : s.Undimmed v where
  picture := h.paint_eq_idle v
  links c m hm := by
    obtain ⟨-, -, -, -, hpart⟩ := Context.exists_of_mem_marks hm
    exact ⟨hpart fun d hd => Draw.keeps_alpha (s.role_paintLinks v d hd) (by decide) (by decide),
      h.leavesOnly_paintLinks hk v c m hm⟩
  figures := by
    simpa only [h.particleFigures_eq, h.paintOrder_eq_shown]
      using s.leaves_paintParticles v 1 (s.paintOrder v)
  particles := h.leavesOnly_paintParticles v 1 _

/-- **Nothing is dimmed without a focus.**  Whatever the pointer comes to, a particle or not, and
however many finite times pass in between, the scene of a dataset comes through unless time has to
pass over an edge from a node to itself.  When the pointer is then on no particle and the previous
one is forgotten, the highlight is exactly zero.  So whenever there is no focus, links have their
plain colors and widths, particles have their plain size and the full alpha, and the whole picture
is as if nothing had ever been pointed at. -/
theorem undimmed_reactAll (d : Dataset) (width height : Float) (showEdgeLabels : Bool)
    (events : List HoverEvent) (hfinite : ∀ dt, .wait dt ∈ events → dt.isFinite) :
    (∃ s, (ofDataset d width height showEdgeLabels).reactAll events = .ok s
        ∧ (s.hover.node = none → s.hover.previous = none → s.hover.highlight = 0)
        ∧ (s.hasFocus = false → ∀ v, s.Undimmed v))
      ∨ ((ofDataset d width height showEdgeLabels).reactAll events = .error .selfAttraction
        ∧ (∃ dt, .wait dt ∈ events) ∧ d.HasLoop) := by
  rcases reactAll_cases (Becomes.refl (s := ofDataset d width height showEdgeLabels)) events with
    ⟨s, hs, hbecomes⟩ | hstopped
  · obtain ⟨hsettled, htransform⟩ := settled_reactAll hfinite Hover.settled_idle hs
    have hk : s.transform.k = 0.75 := congrArg Transform.k htransform
    have hdescribes : s.hover.Describes d.Joined :=
      hbecomes.describes (standsFor_ofDataset d _ _ _) (Hover.describes_idle _)
    exact .inl ⟨s, hs, hsettled,
      fun hfocus => (calm_of_settled hdescribes hsettled hfocus).undimmed hk⟩
  · rw [looped_ofDataset_iff] at hstopped
    exact .inr hstopped

/-- Two states that follow each other. -/
def lane : Graph where
  nodes := [⟨0, "start", .plain, 0, none, true⟩, ⟨1, "next", .plain, 1, none, false⟩]
  edges := [⟨0, 1, "x = 1;", 4⟩]

/-- What passes between two pictures. -/
def frame : HoverEvent := .wait 0.016

/-- The pointer is on one particle, then on the other one, and then has left it for some frames. -/
def glance (frames : Nat) : List HoverEvent :=
  .point (some 0) :: frame :: frame :: frame :: frame :: .point (some 1) :: frame ::
    .point none :: List.replicate frames frame

/-- The highlight has come, outlasts the departure by 51 frames and is gone with the next one. -/
theorem undimmed_glance :
    (∃ s, (ofDataset (.ofGraph lane) 800 600 true).reactAll (glance 51) = .ok s
      ∧ s.hover.node = none ∧ s.hover.highlight > 0.01)
    ∧ (∀ dt, .wait dt ∈ glance 52 → dt.isFinite)
    ∧ ∃ s, (ofDataset (.ofGraph lane) 800 600 true).reactAll (glance 52) = .ok s
      ∧ s.hasFocus = false ∧ s.hover.highlight = 0 ∧ ∀ v, s.Undimmed v := by
  have hnodes : (Dataset.ofGraph lane).nodes = lane.nodes := by cbv
  have hplaces : (Dataset.ofGraph lane).places = [⟨0, 0⟩, ⟨0, 1⟩] := by cbv
  have hlinks : linksOf (.ofGraph lane) = [⟨0, 0, 1, "x = 1;"⟩] := by cbv
  have hfading : ((ofDataset (.ofGraph lane) 800 600 true).reactAll (glance 51)).toOption.map
      (fun s => (s.hover.node, decide (s.hover.highlight > 0.01))) = some (none, true) := by
    simp only [ofDataset, hnodes, hplaces, hlinks]
    decide +kernel
  have hgone : ((ofDataset (.ofGraph lane) 800 600 true).reactAll (glance 52)).toOption.map
      hasFocus = some false := by
    simp only [ofDataset, hnodes, hplaces, hlinks]
    decide +kernel
  have hfinite : ∀ dt, .wait dt ∈ glance 52 → dt.isFinite := by
    intro dt hdt
    obtain rfl : dt = 0.016 := by simpa [glance, frame] using hdt
    decide
  refine ⟨?_, hfinite, ?_⟩
  · cases hrun : (ofDataset (.ofGraph lane) 800 600 true).reactAll (glance 51) with
    | error f =>
        rw [hrun] at hfading
        cases hfading
    | ok s =>
        rw [hrun] at hfading
        obtain ⟨hnode, hhighlight⟩ := Prod.mk.inj (Option.some.inj hfading)
        exact ⟨s, rfl, hnode, of_decide_eq_true hhighlight⟩
  · rcases undimmed_reactAll (.ofGraph lane) 800 600 true (glance 52) hfinite with
      ⟨s, hrun, hsettled, hundimmed⟩ | ⟨herror, -⟩
    · rw [hrun] at hgone
      have hfocus : s.hasFocus = false := Option.some.inj hgone
      obtain ⟨hnode, hprevious⟩ := none_of_hasFocus hfocus
      exact ⟨s, hrun, hfocus, hsettled hnode hprevious, hundimmed hfocus⟩
    · rw [herror] at hgone
      cases hgone

end Scene

end Retrace
