import Mathlib.Data.List.Forall2
import Mathlib.Data.List.Permutation
import Mathlib.Order.Bounds.Basic
import Retrace.Proofs.Canvas.Figures
import Retrace.Proofs.Scene.Evolution
import Retrace.Replay.Engine

/-!
What the shown particles look like.

The painter goes through the particles twice.  On the canvas each shown particle gets its own group
of marks, and the groups follow each other as the two passes do.

* `Portrays`: a group of marks is the picture of a particle, with the colors of its disc and of its
  rings; `Dataset.maxIndex?_eq_some_iff`: the index that is outlined;
* `Scene.portrays_marks`: one particle leaves its picture in every context;
  `Scene.exists_groups`: several ones leave a group each;
* `Scene.inFront_eq_isHighlighted`: the second pass is that of the highlighted particles;
* `Scene.portrays_paintParticles`: the picture of all shown particles.
-/

namespace Retrace

namespace Mark

/-- A path that is filled with a plain color. -/
def disc? (m : Mark) : Option (List Draw × String) :=
  match m.figure, m.pen.fill with
  | .area path, .style color => some (path, color)
  | _, _ => none

/-- A path that is stroked. -/
def ring? (m : Mark) : Option (List Draw × String) :=
  match m.figure with
  | .line path => some (path, m.pen.stroke)
  | _ => none

end Mark

/-- The marks are the picture of a particle. -/
structure Portrays (d : Dataset) (s : Scene) (v : Visual) (p : Particle) (i : Nat)
    (marks : List Mark) : Prop where
  figures : marks.map (·.figure) = s.particleFigures v p i
  /-- There is one disc, since a glow has no plain color. -/
  disc : ∃ color, marks.filterMap Mark.disc? = [(Scene.circle p (s.lookOf i).radius, color)]
    ∧ (color = Scene.mergedFill ↔ p.info.id ∈ v.mergeColored)
    ∧ (p.info.id ∉ v.mergeColored →
        color = if p.info.kind = .toMerge then Scene.toMergeFill else Scene.nodeFill)
  stopped : (∃ path, (path, Scene.stopRing) ∈ marks.filterMap Mark.ring?) ↔ p.info.id ∈ v.stopped
  /-- The greatest node index is outlined. -/
  newest : (∃ path, (path, Scene.newestRing) ∈ marks.filterMap Mark.ring?)
    ↔ IsGreatest {id | ∃ n ∈ d.nodes, n.index = id} p.info.id

/-! ### The greatest index -/

lemma max_nodeId (a b : NodeId) : max a b = if a ≤ b then b else a := rfl

instance : Std.LawfulOrderMax NodeId where
  max_le_iff a b c := by
    rw [max_nodeId]
    by_cases h : a ≤ b
    · rw [if_pos h]
      exact ⟨fun hb => ⟨UInt32.le_trans h hb, hb⟩, And.right⟩
    · rw [if_neg h]
      exact ⟨fun ha => ⟨ha, UInt32.le_trans (UInt32.le_of_lt (UInt32.not_le.1 h)) ha⟩, And.left⟩
  max_eq_or a b := by
    rw [max_nodeId]
    split
    · exact .inr rfl
    · exact .inl rfl

lemma Dataset.maxIndex?_eq_some_iff {d : Dataset} {id : NodeId} :
    d.maxIndex? = some id ↔ IsGreatest {i | ∃ n ∈ d.nodes, n.index = i} id := by
  rw [maxIndex?, List.max?_eq_some_iff]
  simp [IsGreatest, upperBounds]

namespace Scene

variable {d : Dataset} {s : Scene} {v : Visual} {p : Particle} {i : Nat}

/-! ### One particle -/

lemma fillFor_false (kind : Kind) :
    fillFor kind false = if kind = .toMerge then toMergeFill else nodeFill := by
  cases kind <;> rfl

lemma fillFor_eq_mergedFill_iff (kind : Kind) (mergeColored : Bool) :
    fillFor kind mergeColored = mergedFill ↔ mergeColored = true := by
  cases mergeColored with
  | true => exact iff_of_true rfl rfl
  | false =>
      rw [fillFor_false]
      split <;> decide

lemma disc?_marks (s : Scene) (v : Visual) (p : Particle) (i gradient : Nat) (c : Context) :
    (c.marks (s.paintParticle v p i gradient)).filterMap Mark.disc?
      = [(circle p (s.lookOf i).radius, fillFor p.info.kind (p.info.id ∈ v.mergeColored))] := by
  rw [paintParticle]
  split <;> split <;> split <;> rfl

lemma ring?_marks (s : Scene) (v : Visual) (p : Particle) (i gradient : Nat) (c : Context) :
    (c.marks (s.paintParticle v p i gradient)).filterMap Mark.ring?
      = (if p.info.id ∈ v.stopped then [(circle p (s.lookOf i).radius, stopRing)] else [])
        ++ if s.newest = some p.info.id then
            [(circle p ((s.lookOf i).radius + 3 / s.transform.k), newestRing)]
          else [] := by
  rw [paintParticle]
  split <;> split <;> split <;> rfl

/-- A particle leaves its picture, whatever was drawn before. -/
lemma portrays_marks (hnewest : s.newest = d.maxIndex?) (v : Visual) (p : Particle)
    (i gradient : Nat) (c : Context) :
    Portrays d s v p i (c.marks (s.paintParticle v p i gradient)) where
  figures := leaves_paintParticle s v p i gradient c
  disc := by
    refine ⟨_, disc?_marks s v p i gradient c, ?_, fun hid => ?_⟩
    · rw [fillFor_eq_mergedFill_iff, decide_eq_true_eq]
    · rw [decide_eq_false hid, fillFor_false]
  stopped := by
    have hrings : newestRing ≠ stopRing := by decide
    rw [ring?_marks]
    by_cases hid : p.info.id ∈ v.stopped <;> by_cases hnew : s.newest = some p.info.id <;>
      simp [hid, hnew, hrings.symm]
  newest := by
    have hrings : newestRing ≠ stopRing := by decide
    rw [ring?_marks, ← Dataset.maxIndex?_eq_some_iff, ← hnewest]
    by_cases hid : p.info.id ∈ v.stopped <;> by_cases hnew : s.newest = some p.info.id <;>
      simp [hid, hnew, hrings]

/-! ### Both passes -/

/-- Particles leave a group of marks each. -/
lemma exists_groups (hnewest : s.newest = d.maxIndex?) (v : Visual) (gradient : Nat)
    (ps : List (Particle × Nat)) (c : Context) :
    ∃ groups, c.marks (s.paintParticles v gradient ps) = groups.flatten
      ∧ List.Forall₂ (fun q marks => Portrays d s v q.1 q.2 marks) ps groups := by
  induction ps generalizing gradient c with
  | nil => exact ⟨[], rfl, .nil⟩
  | cons q ps ih =>
      obtain ⟨groups, hgroups, hportrays⟩ :=
        ih (if s.glows q.2 then gradient + 1 else gradient)
          (c.after (s.paintParticle v q.1 q.2 gradient))
      refine ⟨_ :: groups, ?_, .cons (portrays_marks hnewest v q.1 q.2 gradient c) hportrays⟩
      rw [paintParticles, Context.marks_append, hgroups, List.flatten_cons]

/-- Only a focus highlights, and so the second pass is that of the highlighted particles. -/
lemma inFront_eq_isHighlighted (h : s.hover.Coherent) (i : Nat) :
    s.inFront i = s.isHighlighted i := by
  cases hfocus : s.hasFocus with
  | true => rw [inFront, hfocus, Bool.true_and]
  | false =>
      rw [hasFocus, Bool.or_eq_false_iff, Option.isSome_eq_false_iff, Option.isSome_eq_false_iff,
        Option.isNone_iff_eq_none, Option.isNone_iff_eq_none] at hfocus
      obtain ⟨hnode, hprevious⟩ := hfocus
      simp [inFront, hasFocus, isHighlighted, hnode, hprevious, h.neighbours hnode,
        h.previousNeighbours hprevious]

/-- **Each shown particle is painted once and in its style.**  Whatever has become of the scene of a
dataset, its particles in front are the highlighted ones; and with whatever highlight, the marks
fall into groups, one for each shown particle: first those that are not in front, then those in
front, each time in scene order.  Each group is the picture of its particle. -/
theorem portrays_paintParticles (g : Graph) {width height : Float} {showEdgeLabels : Bool}
    {s : Scene} (hs : (ofDataset (.ofGraph g) width height showEdgeLabels).Becomes s) :
    (∀ i, s.inFront i = s.isHighlighted i)
    ∧ ∀ (hover : Hover) (v : Visual) (c : Context),
        let t := { s with hover }
        let order := ((t.shown v).filter fun q => !t.inFront q.2)
          ++ (t.shown v).filter fun q => t.inFront q.2
        order.Perm (t.shown v)
        ∧ ∃ groups, c.marks (t.paintParticles v 1 (t.paintOrder v)) = groups.flatten
            ∧ List.Forall₂ (fun q marks => Portrays (.ofGraph g) t v q.1 q.2 marks)
                order groups := by
  refine ⟨inFront_eq_isHighlighted (hs.coherent Hover.coherent_idle), ?_⟩
  intro hover v c t order
  have hnewest : t.newest = (Dataset.ofGraph g).maxIndex? := hs.newest
  have horder : t.paintOrder v = order := paintOrder_eq t v
  rw [← horder]
  exact ⟨paintOrder_perm t v, exists_groups hnewest v 1 (t.paintOrder v) c⟩

/-- Two nodes have the greatest index, and the analysis stopped at the first node. -/
def repeated : Graph where
  nodes := [
    ⟨0, "start", .plain, 0, none, true⟩,
    ⟨1, "before", .toMerge, 1, none, false⟩,
    ⟨1, "after", .merged, 2, none, false⟩]
  edges := [⟨0, 1, "x = 1;", 4⟩]

/-- The pointer has left the first particle, and its highlight fades. -/
def fading : Scene := ((ofDataset (.ofGraph repeated) 800 600 true).setHover (some 0)).setHover none

theorem portrays_fading :
    let v := ((Engine.ofGraph repeated).run [.showFull .revealAll]).visual
    (∀ i, fading.inFront i = fading.isHighlighted i)
    ∧ ∀ c : Context, ∃ p q r first second third,
        c.marks (fading.paintParticles v 1 (fading.paintOrder v)) = first ++ second ++ third
        ∧ Portrays (.ofGraph repeated) fading v r 2 first
        ∧ Portrays (.ofGraph repeated) fading v p 0 second
        ∧ Portrays (.ofGraph repeated) fading v q 1 third := by
  intro v
  have hs : (ofDataset (.ofGraph repeated) 800 600 true).Becomes fading :=
    (Becomes.refl.hover (some 0)).hover none
  obtain ⟨hhighlighted, hpicture⟩ := portrays_paintParticles repeated hs
  refine ⟨hhighlighted, fun c => ?_⟩
  have hnodes : (Dataset.ofGraph repeated).nodes = repeated.nodes := by cbv
  have hplaces : (Dataset.ofGraph repeated).places = [⟨0, 0⟩, ⟨0, 1⟩, ⟨-1, 1⟩] := by cbv
  have hlinks : linksOf (.ofGraph repeated) = [⟨0, 0, 1, "x = 1;"⟩] := by cbv
  have hids : v.shownNodes = .ofList [0, 1] := by cbv
  obtain ⟨p, q, r, hshown⟩ : ∃ p q r, fading.shown v = [(p, 0), (q, 1), (r, 2)] := by
    simp only [shown, hids, fading, ofDataset, hnodes, hplaces]
    exact ⟨_, _, _, rfl⟩
  have hfront : fading.inFront 0 = true ∧ fading.inFront 1 = true ∧ fading.inFront 2 = false := by
    simp only [fading, ofDataset, hlinks, hnodes, hplaces]
    decide +kernel
  have horder : ((fading.shown v).filter fun q => !fading.inFront q.2)
      ++ (fading.shown v).filter (fun q => fading.inFront q.2) = [(r, 2), (p, 0), (q, 1)] := by
    rw [hshown]
    simp [hfront]
  obtain ⟨-, groups, hgroups, hportrays⟩ := hpicture fading.hover v c
  have hthree : List.Forall₂ (fun q marks => Portrays (.ofGraph repeated) fading v q.1 q.2 marks)
      [(r, 2), (p, 0), (q, 1)] groups := horder ▸ hportrays
  obtain ⟨first, _, hfirst, htwo, rfl⟩ := List.forall₂_cons_left_iff.1 hthree
  obtain ⟨second, _, hsecond, hone, rfl⟩ := List.forall₂_cons_left_iff.1 htwo
  obtain ⟨third, _, hthird, hnone, rfl⟩ := List.forall₂_cons_left_iff.1 hone
  obtain rfl := List.forall₂_nil_left_iff.1 hnone
  refine ⟨p, q, r, first, second, third, ?_, hfirst, hsecond, hthird⟩
  simpa using hgroups

end Scene

end Retrace
