import Mathlib.Data.List.Permutation
import Retrace.Replay.Engine

/-!
Runs of the replay engine.

What an action leads to depends on the dataset and on the current step.  Only the picture of every
node and every edge looks at what was shown before: it keeps the marked line.

* `Engine.outcomes`: what each action of a run leads to; `Engine.run_induction`: what a run keeps;
* `Engine.dataset_run`, `Engine.current_run_le`: the dataset and the bound of the current step;
* `Engine.pushes_act`: what an action pushes, in order;
* `Engine.act_eq_act`: two engines at the same step of one dataset take an action alike;
* `Engine.run_replicate_stepForward`, `Engine.run_replicate_stepBack`: steps in a row are one jump;
* `Engine.outcomes_run_eq`: a run does not depend on what was done before it.
-/

namespace Retrace

/-- The push that goes with a marked line, or with none. -/
def Push.ofMark : Option UInt32 → Push
  | some line => .mark line
  | none => .clearMark

namespace Engine

/-- What each of some actions leads to, performed one after the other. -/
def outcomes (e : Engine) : List Action → List Outcome
  | [] => []
  | a :: more => e.act a :: (e.act a).engine.outcomes more

variable {e e' : Engine}

/-! ### Actions in a row -/

@[simp] lemma run_nil : e.run [] = e := rfl

@[simp] lemma run_cons (a : Action) (more : List Action) :
    e.run (a :: more) = (e.act a).engine.run more := rfl

lemma run_append (actions more : List Action) :
    e.run (actions ++ more) = (e.run actions).run more := by
  rw [run, List.foldl_append]
  rfl

/-- **What a run keeps**: a property that every action passes on. -/
lemma run_induction {P : Engine → Prop} (act : ∀ e a, P e → P (Engine.act e a).engine)
    (start : P e) (actions : List Action) : P (e.run actions) := by
  induction actions generalizing e with
  | nil => exact start
  | cons a more ih => exact ih (act e a start)

/-- Each outcome of a run is that of an action on an engine that the run has come to. -/
lemma exists_act_of_mem_outcomes {actions : List Action} {o : Outcome}
    (ho : o ∈ e.outcomes actions) :
    ∃ done a more, actions = done ++ a :: more ∧ o = (e.run done).act a := by
  induction actions generalizing e with
  | nil => cases ho
  | cons a more ih =>
      rcases List.mem_cons.1 ho with rfl | ho
      · exact ⟨[], a, more, rfl, rfl⟩
      · obtain ⟨done, b, rest, rfl, rfl⟩ := ih ho
        exact ⟨a :: done, b, rest, rfl, rfl⟩

/-! ### One action -/

@[simp] lemma dataset_act (e : Engine) (a : Action) : (e.act a).engine.dataset = e.dataset := by
  cases a <;> rfl

lemma maxStep_act (e : Engine) (a : Action) : (e.act a).engine.maxStep = e.maxStep := by
  rw [maxStep, dataset_act, maxStep]

lemma current_act_le (e : Engine) (a : Action) : (e.act a).engine.current ≤ e.maxStep := by
  cases a with
  | showFull mode => exact Nat.le_refl _
  | advanceTo _ | reset | stepForward | stepBack => exact Nat.min_le_right _ _

/-- An action pushes its picture, then the mark or that there is none, then the slider. -/
lemma pushes_act (e : Engine) (a : Action) :
    (e.act a).pushes = [
      .apply (e.act a).engine.visual,
      .ofMark (e.act a).engine.visual.markedLine,
      .slider 0 (e.act a).engine.maxStep (e.act a).engine.current] := by
  have hpresent : ∀ step v log, (e.present step v log).pushes = [.apply v, .ofMark v.markedLine,
      .slider 0 (e.present step v log).engine.maxStep step] := by
    intro step v log
    rw [present]
    cases v.markedLine <;> rfl
  cases a <;> exact hpresent _ _ _

/-- Only the dataset and the current step decide what an action leads to, except for the picture of
every node and every edge. -/
lemma act_eq_act (hdataset : e.dataset = e'.dataset) (hcurrent : e.current = e'.current)
    {a : Action} (ha : a ≠ .showFull .revealAll) : e.act a = e'.act a := by
  obtain ⟨d, current, visual⟩ := e
  obtain ⟨d', current', visual'⟩ := e'
  obtain rfl : d = d' := hdataset
  obtain rfl : current = current' := hcurrent
  cases a with
  | advanceTo _ | reset | stepForward | stepBack => rfl
  | showFull mode =>
      cases mode with
      | replay => rfl
      | revealAll => exact absurd rfl ha

/-! ### What runs keep -/

@[simp] lemma dataset_run (e : Engine) (actions : List Action) :
    (e.run actions).dataset = e.dataset := by
  refine run_induction (P := fun e' => e'.dataset = e.dataset) ?_ rfl actions
  intro e' a h
  rw [dataset_act, h]

/-- No run leaves the steps of the dataset. -/
lemma current_run_le (g : Graph) (actions : List Action) :
    ((ofGraph g).run actions).current ≤ ((ofGraph g).run actions).maxStep := by
  refine run_induction (P := fun e => e.current ≤ e.maxStep) ?_ (Nat.zero_le _) actions
  intro e a _
  rw [maxStep_act]
  exact current_act_le e a

/-! ### Steps in a row -/

lemma engine_advanceTo (e : Engine) (step : Nat) :
    (e.act (.advanceTo step)).engine = ⟨e.dataset, min step e.maxStep, e.dataset.visualAt step⟩ :=
  rfl

/-- Steps forward stop at the last step. -/
lemma run_replicate_stepForward (e : Engine) (k : Nat) :
    e.run (List.replicate (k + 1) .stepForward)
      = (e.act (.advanceTo (min (e.current + (k + 1)) e.maxStep))).engine := by
  induction k generalizing e with
  | zero => rfl
  | succ k ih =>
      have hcurrent : (e.act .stepForward).engine.current = min (e.current + 1) e.maxStep :=
        Nat.min_eq_left (Nat.min_le_right _ _)
      have htarget : min (min (e.current + 1) e.maxStep + (k + 1)) e.maxStep
          = min (e.current + (k + 2)) e.maxStep := by omega
      rw [List.replicate_succ, run_cons, ih, hcurrent, maxStep_act, htarget, engine_advanceTo,
        dataset_act, maxStep_act, ← engine_advanceTo]

/-- Steps back stop at the first step. -/
lemma run_replicate_stepBack (e : Engine) (h : e.current ≤ e.maxStep) (k : Nat) :
    e.run (List.replicate (k + 1) .stepBack)
      = (e.act (.advanceTo (e.current - (k + 1)))).engine := by
  induction k generalizing e with
  | zero => rfl
  | succ k ih =>
      have hcurrent : (e.act .stepBack).engine.current = e.current - 1 :=
        Nat.min_eq_left (Nat.le_trans (Nat.sub_le _ _) h)
      have hbound : (e.act .stepBack).engine.current ≤ (e.act .stepBack).engine.maxStep := by
        rw [maxStep_act]
        exact current_act_le e .stepBack
      have htarget : e.current - 1 - (k + 1) = e.current - (k + 2) := by omega
      rw [List.replicate_succ, run_cons, ih _ hbound, hcurrent, htarget, engine_advanceTo,
        dataset_act, maxStep_act, ← engine_advanceTo]

/-! ### The past does not matter -/

/-- Engines at the same step of one dataset perform the same run, unless it begins with the picture
of every node and every edge. -/
lemma outcomes_cons_eq (hdataset : e.dataset = e'.dataset) (hcurrent : e.current = e'.current)
    {a : Action} (ha : a ≠ .showFull .revealAll) (more : List Action) :
    e.outcomes (a :: more) = e'.outcomes (a :: more) ∧ e.run (a :: more) = e'.run (a :: more) := by
  have hact := act_eq_act hdataset hcurrent ha
  rw [outcomes, outcomes, run_cons, run_cons, hact]
  exact ⟨rfl, rfl⟩

/-- **Replay does not depend on its past**: after any two runs that end at the same step, the same
actions lead to the same outcomes, with the same pictures and the same pushes in the same order, and
to the same engine, unless the first of them shows every node and every edge.  Any number of steps
forward or back is one jump, and a reset is a jump to the first step. -/
theorem outcomes_run_eq (g : Graph) :
    (∀ past past' : List Action,
      ((ofGraph g).run past).current = ((ofGraph g).run past').current →
      ∀ (a : Action) (more : List Action), a ≠ .showFull .revealAll →
        ((ofGraph g).run past).outcomes (a :: more) = ((ofGraph g).run past').outcomes (a :: more)
        ∧ (ofGraph g).run (past ++ a :: more) = (ofGraph g).run (past' ++ a :: more))
    ∧ (∀ actions, ∀ o ∈ (ofGraph g).outcomes actions,
        o.pushes = [.apply o.engine.visual, .ofMark o.engine.visual.markedLine,
          .slider 0 o.engine.maxStep o.engine.current])
    ∧ ∀ (past : List Action) (e : Engine), e = (ofGraph g).run past →
      (∀ k > 0, e.run (List.replicate k .stepForward)
        = (e.act (.advanceTo (min (e.current + k) e.maxStep))).engine)
      ∧ (∀ k > 0, e.run (List.replicate k .stepBack)
        = (e.act (.advanceTo (e.current - k))).engine)
      ∧ e.act .reset = e.act (.advanceTo 0) := by
  refine ⟨fun past past' hcurrent a more ha => ?_, fun actions o ho => ?_, ?_⟩
  · have hdataset : ((ofGraph g).run past).dataset = ((ofGraph g).run past').dataset := by
      rw [dataset_run, dataset_run]
    rw [run_append, run_append]
    exact outcomes_cons_eq hdataset hcurrent ha more
  · obtain ⟨done, a, more, -, rfl⟩ := exists_act_of_mem_outcomes ho
    exact pushes_act _ a
  · rintro past e rfl
    refine ⟨fun k hk => ?_, fun k hk => ?_, rfl⟩
    · obtain ⟨k, rfl⟩ := Nat.exists_eq_add_one_of_ne_zero (Nat.ne_of_gt hk)
      exact run_replicate_stepForward _ k
    · obtain ⟨k, rfl⟩ := Nat.exists_eq_add_one_of_ne_zero (Nat.ne_of_gt hk)
      exact run_replicate_stepBack _ (current_run_le g past) k

/-- Past the end the highlight of the last node is gone. -/
def highlighted : Graph where
  nodes := [⟨0, "start", .plain, 0, none, false⟩, ⟨1, "merge", .merged, 1, none, false⟩]
  edges := [⟨0, 1, "x = 1;", 5⟩]

theorem outcomes_highlighted :
    ((ofGraph highlighted).run [.advanceTo 1]).visual.mergeColored.toList = [1]
      ∧ ((ofGraph highlighted).run [.stepBack, .advanceTo 7]).visual.mergeColored.toList = []
      ∧ ((ofGraph highlighted).run [.advanceTo 1]).current
        = ((ofGraph highlighted).run [.stepBack, .advanceTo 7]).current
      ∧ ((ofGraph highlighted).run [.advanceTo 1]).outcomes [.stepForward, .showFull .revealAll]
        = ((ofGraph highlighted).run [.stepBack, .advanceTo 7]).outcomes
          [.stepForward, .showFull .revealAll]
      ∧ ((ofGraph highlighted).run [.advanceTo 1]).run [.stepBack, .stepBack]
        = (((ofGraph highlighted).run [.advanceTo 1]).act (.advanceTo 0)).engine := by
  have hcurrent : ((ofGraph highlighted).run [.advanceTo 1]).current
      = ((ofGraph highlighted).run [.stepBack, .advanceTo 7]).current := by cbv
  have hback := ((outcomes_run_eq highlighted).2.2 [.advanceTo 1] _ rfl).2.1 2 (by decide)
  have hone : ((ofGraph highlighted).run [.advanceTo 1]).current = 1 := by cbv
  rw [hone] at hback
  exact ⟨by cbv, by cbv, hcurrent,
    ((outcomes_run_eq highlighted).1 _ _ hcurrent .stepForward _ (by decide)).1, hback⟩

end Engine

end Retrace
