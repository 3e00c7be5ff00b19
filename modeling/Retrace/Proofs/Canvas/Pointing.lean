import Mathlib.Data.List.Permutation
import Mathlib.Order.Bounds.Basic
import Retrace.Proofs.Canvas.Figures
import Retrace.Proofs.Scene.Evolution
import Retrace.Replay.Engine

/-!
Pointing and painting.

Of the shown particles under a point the pointer finds the last one in scene order.  The painter
leaves the highlighted ones for the end, so a highlighted particle can lie in front of the one that
the pointer finds.

* `Scene.Under`: a shown particle lies under a point;
* `Scene.topmostAt?`: the particle under a point that is painted last;
* `Scene.particleAt_eq`, `Scene.topmostAt?_eq`: both are the last of a list of particles under the
  point;
* `Scene.particleAt_eq_topmostAt?_iff`: what the pointer finds, and when it is the particle painted
  last; `Scene.not_particleAt_eq_topmostAt?_stacked`: the two can differ.
-/

namespace Retrace

namespace Scene

/-! ### Under a point -/

/-- The particle is shown and lies under a point of the screen. -/
def Under (s : Scene) (v : Visual) (sx sy : Float) (i : Nat) : Prop :=
  ∃ p, s.particles[i]? = some p ∧ p.info.id ∈ v.shownNodes ∧ hits p (s.toGraph sx sy) = true

/-- The shown particle under a point of the screen that is painted last. -/
def topmostAt? (s : Scene) (v : Visual) (sx sy : Float) : Option Nat :=
  (((s.paintOrder v).filter fun q => hits q.1 (s.toGraph sx sy)).map (·.2)).getLast?

/-- The shown particles under a point of the screen, in scene order. -/
def under (s : Scene) (v : Visual) (sx sy : Float) : List Nat :=
  ((s.shown v).filter fun q => hits q.1 (s.toGraph sx sy)).map (·.2)

variable {s : Scene} {v : Visual} {sx sy : Float} {i : Nat}

lemma mem_under : i ∈ s.under v sx sy ↔ s.Under v sx sy i := by
  simp [under, Under, mem_shown, and_assoc]

lemma pairwise_under (s : Scene) (v : Visual) (sx sy : Float) :
    (s.under v sx sy).Pairwise (· < ·) :=
  List.pairwise_map.2
    ((pairwise_zipIdx s.particles).sublist (List.filter_sublist.trans List.filter_sublist))

lemma particleAt_eq (s : Scene) (v : Visual) (sx sy : Float) :
    s.particleAt sx sy v.showsNode = (s.under v sx sy).getLast? := by
  rw [particleAt, under, shown, List.filter_filter]
  simp only [Visual.showsNode, Bool.and_comm]

/-- Of the particles under the point those in front are painted last. -/
lemma topmostAt?_eq (s : Scene) (v : Visual) (sx sy : Float) :
    s.topmostAt? v sx sy
      = (((s.under v sx sy).filter fun i => s.inFront i).getLast?.or
          ((s.under v sx sy).filter fun i => !s.inFront i).getLast?) := by
  have hsplit (front : Nat → Bool) :
      (((s.shown v).filter fun q => front q.2).filter fun q => hits q.1 (s.toGraph sx sy)).map (·.2)
        = (s.under v sx sy).filter front := by
    rw [under, List.filter_map, List.filter_filter, List.filter_filter]
    refine congrArg (List.map _) (List.filter_congr fun q _ => Bool.and_comm _ _)
  rw [topmostAt?, paintOrder_eq, List.filter_append, List.map_append, List.getLast?_append,
    hsplit s.inFront, hsplit fun i => !s.inFront i]

/-! ### The last one -/

lemma getLast?_eq_some_iff_isGreatest {l : List Nat} (h : l.Pairwise (· < ·)) :
    l.getLast? = some i ↔ IsGreatest {j | j ∈ l} i := by
  rcases List.eq_nil_or_concat' l with rfl | ⟨earlier, last, rfl⟩
  · simp [IsGreatest]
  · have hlast : IsGreatest {j | j ∈ earlier ++ [last]} last := by
      refine ⟨List.mem_append_right _ (List.mem_singleton_self _), fun j hj => ?_⟩
      rcases List.mem_append.1 hj with hj | hj
      · exact Nat.le_of_lt ((List.pairwise_append.1 h).2.2 j hj last (List.mem_singleton_self _))
      · exact Nat.le_of_eq (List.mem_singleton.1 hj)
    rw [List.getLast?_concat, Option.some.injEq]
    constructor
    · rintro rfl
      exact hlast
    · exact hlast.unique

lemma particleAt_eq_some_iff :
    s.particleAt sx sy v.showsNode = some i ↔ IsGreatest {j | s.Under v sx sy j} i := by
  rw [particleAt_eq, getLast?_eq_some_iff_isGreatest (pairwise_under s v sx sy)]
  simp only [mem_under]

/-- The particle painted last is the last of those in front, if there are any. -/
lemma topmostAt?_eq_some_iff :
    s.topmostAt? v sx sy = some i
      ↔ IsGreatest {j | s.Under v sx sy j ∧ s.inFront j = true} i
        ∨ (∀ j, s.Under v sx sy j → s.inFront j = false)
          ∧ IsGreatest {j | s.Under v sx sy j} i := by
  have hordered := pairwise_under s v sx sy
  rw [topmostAt?_eq, Option.or_eq_some_iff, getLast?_eq_some_iff_isGreatest (hordered.filter _),
    getLast?_eq_some_iff_isGreatest (hordered.filter _), List.getLast?_eq_none_iff,
    List.filter_eq_nil_iff]
  simp only [List.mem_filter, mem_under, Bool.not_eq_true, Bool.not_eq_true']
  refine or_congr_right (and_congr_right fun hnone => ?_)
  have hall : {j | s.Under v sx sy j ∧ s.inFront j = false} = {j | s.Under v sx sy j} :=
    Set.ext fun j => and_iff_left_of_imp (hnone j)
  rw [hall]

/-- **The pointer does not look at the highlight.**  It finds nothing iff no shown particle lies
under the point, and otherwise the last one in scene order.  This is the particle that is painted
last iff it is highlighted whenever some shown particle under the point is. -/
theorem particleAt_eq_topmostAt?_iff (s : Scene) (v : Visual) (sx sy : Float) :
    (s.particleAt sx sy v.showsNode = none ↔ ∀ i, ¬ s.Under v sx sy i)
    ∧ (∀ i, s.particleAt sx sy v.showsNode = some i ↔ IsGreatest {j | s.Under v sx sy j} i)
    ∧ (s.particleAt sx sy v.showsNode = s.topmostAt? v sx sy
        ↔ ∀ i j, s.Under v sx sy i → s.inFront i = true →
            s.particleAt sx sy v.showsNode = some j → s.inFront j = true) := by
  have hnone : s.particleAt sx sy v.showsNode = none ↔ ∀ i, ¬ s.Under v sx sy i := by
    rw [particleAt_eq, List.getLast?_eq_none_iff, List.eq_nil_iff_forall_not_mem]
    simp only [mem_under]
  refine ⟨hnone, fun i => particleAt_eq_some_iff, ?_, ?_⟩
  · intro hsame i j hi hfront hj
    rcases topmostAt?_eq_some_iff.1 (hsame ▸ hj) with hlast | ⟨hback, -⟩
    · exact hlast.1.2
    · exact absurd hfront (by rw [hback i hi]; exact Bool.false_ne_true)
  · intro hfront
    cases hfound : s.particleAt sx sy v.showsNode with
    | none =>
        refine (Option.eq_none_iff_forall_ne_some.2 fun i hi => ?_).symm
        refine hnone.1 hfound i ?_
        rcases topmostAt?_eq_some_iff.1 hi with hlast | ⟨-, hlast⟩
        · exact hlast.1.1
        · exact hlast.1
    | some j =>
        have hlast := particleAt_eq_some_iff.1 hfound
        refine (topmostAt?_eq_some_iff.2 ?_).symm
        by_cases hany : ∃ i, s.Under v sx sy i ∧ s.inFront i = true
        · obtain ⟨i, hi, hifront⟩ := hany
          exact .inl ⟨⟨hlast.1, hfront i j hi hifront hfound⟩, fun i hi => hlast.2 hi.1⟩
        · refine .inr ⟨fun i hi => ?_, hlast⟩
          rw [← Bool.not_eq_true]
          exact fun hifront => hany ⟨i, hi, hifront⟩

/-- Two nodes without an edge. -/
def pair : Graph where
  nodes := [⟨0, "", .plain, 0, none, false⟩, ⟨1, "", .plain, 1, none, false⟩]
  edges := []

/-- The second particle lies on the first one, which the pointer has been moved to. -/
def stacked : Scene :=
  ((ofDataset (.ofGraph pair) 800 600 true).changeBody 1
    fun body => { body with x := 0, y := 0 }).setHover (some 0)

/-- The first particle is painted last, but the pointer finds the second one. -/
theorem not_particleAt_eq_topmostAt?_stacked :
    ¬ ∀ (g : Graph) (actions : List Action) (s : Scene),
      (ofDataset (.ofGraph g) 800 600 true).Becomes s →
        let v := ((Engine.ofGraph g).run actions).visual
        ∀ sx sy, s.particleAt sx sy v.showsNode = s.topmostAt? v sx sy := by
  intro h
  have hs : (ofDataset (.ofGraph pair) 800 600 true).Becomes stacked :=
    (Becomes.refl.place 1 _).hover (some 0)
  have hsame := h pair [.stepForward] stacked hs 400 60
  have hnodes : (Dataset.ofGraph pair).nodes = pair.nodes := by cbv
  have hplaces : (Dataset.ofGraph pair).places = [⟨0, 0⟩, ⟨0, 1⟩] := by cbv
  have hshown : ((Engine.ofGraph pair).run [.stepForward]).visual.shownNodes = .ofList [0, 1] := by
    cbv
  have hpicture : let v := ((Engine.ofGraph pair).run [.stepForward]).visual
      stacked.particleAt 400 60 v.showsNode = some 1 ∧ stacked.topmostAt? v 400 60 = some 0 := by
    simp only [particleAt, topmostAt?, paintOrder, pass, Visual.showsNode, hshown, stacked,
      ofDataset, hnodes, hplaces]
    decide +kernel
  rw [hpicture.1, hpicture.2] at hsame
  cases hsame

end Scene

end Retrace
