import Retrace.Proofs.Scene.Evolution

/-!
What is highlighted.

The pointer comes to particles and leaves them, and time passes.  All the while the highlight
belongs to one particle, the focus: the one that the pointer is on, or else the one that it has left
last, until that is forgotten.

* `Hover.Describes`: the highlight is that of at most one focus, and the neighbours are those that
  links join to it; `Scene.describes_setHover` and `Hover.Describes.pass` keep it;
* `Scene.Becomes.describes`: the highlight of a scene, whatever has become of it;
* `Scene.isHovered_iff`, `Scene.isHighlighted_iff`, `Scene.hasFocus_eq_false_iff`: what the focus
  alone decides;
* `Scene.reactAll_cases`: a scene comes through, unless time cannot pass; `Scene.node_reactAll`:
  the pointer is where it has come to last;
* `Scene.focus_reactAll`: the highlight after any visits of the pointer and any waiting.
-/

namespace Retrace

/-- Two particles are joined by a link, in either direction. -/
def Dataset.Joined (d : Dataset) (i j : Nat) : Prop := ∃ l ∈ Scene.linksOf d, l.joins i j = true

namespace Hover

/-- The particle that is highlighted with its neighbours. -/
def focus? (h : Hover) : Option Nat := h.node.or h.previous

/-- There is one focus at most, and the neighbours that are kept of it are those joined to it. -/
structure Describes (joined : Nat → Nat → Prop) (h : Hover) : Prop where
  single : h.node = none ∨ h.previous = none
  neighbours : ∀ j, j ∈ h.neighbours ↔ ∃ i, h.node = some i ∧ joined i j
  previousNeighbours : ∀ j, j ∈ h.previousNeighbours ↔ ∃ i, h.previous = some i ∧ joined i j

variable {joined : Nat → Nat → Prop} {h : Hover}

lemma describes_idle (joined : Nat → Nat → Prop) : idle.Describes joined where
  single := .inl rfl
  neighbours := by simp [idle]
  previousNeighbours := by simp [idle]

/-- Time forgets a previous focus together with its neighbours. -/
lemma Describes.pass (hh : h.Describes joined) (dt : Float) : (h.pass dt).Describes joined := by
  unfold Hover.pass
  dsimp only
  split
  · exact ⟨hh.single, hh.neighbours, hh.previousNeighbours⟩
  · split
    · exact ⟨.inr rfl, hh.neighbours, by simp⟩
    · exact ⟨hh.single, hh.neighbours, hh.previousNeighbours⟩

end Hover

namespace Scene

variable {d : Dataset} {s t : Scene} {i j : Nat}

/-! ### One focus -/

/-- The particles found around a particle are those that links join to it. -/
lemma mem_neighbours_iff (hs : s.StandsFor d) : j ∈ s.neighbours i ↔ d.Joined i j := by
  have hlength : s.particles.length = d.nodes.length := by
    simpa [Scene.infos] using congrArg List.length hs.infos
  rw [neighbours, List.mem_filter, List.any_eq_true, List.mem_range, hs.links, hlength]
  refine and_iff_right_of_imp ?_
  rintro ⟨l, hl, hjoins⟩
  obtain ⟨e, -, hsource, htarget, -⟩ := mem_linksOf_iff.1 hl
  obtain ⟨n, hn, -⟩ := node_of_numberOf? hsource
  obtain ⟨m, hm, -⟩ := node_of_numberOf? htarget
  rw [Link.joins, decide_eq_true_eq] at hjoins
  rcases hjoins with ⟨-, rfl⟩ | ⟨rfl, -⟩
  · exact (List.getElem?_eq_some_iff.1 hm).1
  · exact (List.getElem?_eq_some_iff.1 hn).1

/-- The pointer comes to a particle, or leaves it and with it its neighbours behind. -/
lemma describes_setHover (hs : s.StandsFor d) (h : s.hover.Describes d.Joined)
    (node : Option Nat) : (s.setHover node).hover.Describes d.Joined := by
  unfold setHover
  dsimp only
  split
  · exact h
  · cases node with
    | none => exact ⟨.inl rfl, by simp, h.neighbours⟩
    | some i =>
        refine ⟨.inr rfl, fun j => ?_, by simp⟩
        rw [mem_neighbours_iff hs]
        simp

/-- Whatever becomes of a scene, the highlight goes on to describe one focus. -/
lemma Becomes.describes (h : s.Becomes t) (hs : s.StandsFor d)
    (hhover : s.hover.Describes d.Joined) : t.hover.Describes d.Joined := by
  induction h with
  | refl => exact hhover
  | hover node ht ih => exact describes_setHover (ht.standsFor hs) ih node
  | tick dt _ hu ih =>
      obtain ⟨particles, flowTime, passed, rfl, -⟩ := tick_eq_ok hu
      exact ih.pass passed
  | point _ _ ih => exact ⟨ih.single, ih.neighbours, ih.previousNeighbours⟩
  | place _ _ _ ih | transform _ _ ih | resize _ _ _ ih => exact ih

/-! ### What the focus decides -/

section

variable {joined : Nat → Nat → Prop} (h : s.hover.Describes joined)

include h

lemma isHovered_iff : s.isHovered i = true ↔ s.hover.focus? = some i := by
  rw [isHovered, Hover.focus?]
  rcases h.single with hnone | hnone <;> simp [hnone]

lemma isHighlighted_iff :
    s.isHighlighted j = true ↔ ∃ i, s.hover.focus? = some i ∧ (j = i ∨ joined i j) := by
  have hkept : s.isHighlighted j = true ↔ (s.hover.node = some j ∨ j ∈ s.hover.neighbours)
      ∨ s.hover.previous = some j ∨ j ∈ s.hover.previousNeighbours := by
    simp [isHighlighted, or_assoc]
  rw [hkept, h.neighbours, h.previousNeighbours, Hover.focus?]
  rcases h.single with hnone | hnone
  · cases hprevious : s.hover.previous <;> simp [hnone, eq_comm]
  · cases hnode : s.hover.node <;> simp [hnone, eq_comm]

lemma hasFocus_eq_false_iff : s.hasFocus = false ↔ ∀ j, s.isHighlighted j = false := by
  have hfocus : s.hasFocus = s.hover.focus?.isSome := Option.isSome_or.symm
  rw [hfocus, Option.isSome_eq_false_iff, Option.isNone_iff_eq_none]
  constructor
  · intro hnone j
    rw [← Bool.not_eq_true, isHighlighted_iff h]
    rintro ⟨i, hi, -⟩
    rw [hnone] at hi
    cases hi
  · intro hall
    refine Option.eq_none_iff_forall_ne_some.2 fun i hi => ?_
    exact Bool.false_ne_true ((hall i).symm.trans ((isHighlighted_iff h).2 ⟨i, hi, .inl rfl⟩))

end

/-! ### Visits and waiting -/

/-- What moves the highlight. -/
inductive HoverEvent where
  /-- The pointer comes to a particle, or to none. -/
  | point (node : Option Nat)
  /-- Time passes. -/
  | wait (dt : Float32)

/-- What the pointer comes to, if it moves. -/
def HoverEvent.pointed? : HoverEvent → Option (Option Nat)
  | .point node => some node
  | .wait _ => none

/-- The scene after an event. -/
def react (s : Scene) : HoverEvent → Except SimulationFault Scene
  | .point node => .ok (s.setHover node)
  | .wait dt => s.tick dt

/-- The scene after several events. -/
def reactAll (s : Scene) (events : List HoverEvent) : Except SimulationFault Scene :=
  events.foldlM react s

lemma Becomes.react {u : Scene} {e : HoverEvent} (h : s.Becomes t) (hu : t.react e = .ok u) :
    s.Becomes u := by
  cases e with
  | point node =>
      obtain rfl := Except.ok.inj hu
      exact h.hover node
  | wait dt => exact h.tick dt hu

/-- A scene comes through all events, or an event on the way is a time that cannot pass. -/
lemma reactAll_cases (h : s.Becomes t) (events : List HoverEvent) :
    (∃ u, t.reactAll events = .ok u ∧ s.Becomes u)
      ∨ (t.reactAll events = .error .selfAttraction ∧ (∃ dt, .wait dt ∈ events)
        ∧ Simulation.Looped s.springs s.particles.length) := by
  induction events generalizing t with
  | nil => exact .inl ⟨t, rfl, h⟩
  | cons e events ih =>
      rw [reactAll, List.foldlM_cons]
      cases hnext : t.react e with
      | ok next =>
          refine (ih (h.react hnext)).imp id ?_
          rintro ⟨herror, ⟨dt, hdt⟩, hloop⟩
          exact ⟨herror, ⟨dt, List.mem_cons_of_mem _ hdt⟩, hloop⟩
      | error f =>
          cases e with
          | point node => cases hnext
          | wait dt =>
              have hskeleton := h.skeleton
              simp only [skeleton, Prod.mk.injEq] at hskeleton
              have hloop := looped_of_tick_eq_error hnext
              rw [hskeleton.1, hskeleton.2.1] at hloop
              cases f
              exact .inr ⟨rfl, ⟨dt, List.mem_cons_self⟩, hloop⟩

lemma node_setHover (s : Scene) (node : Option Nat) : (s.setHover node).hover.node = node := by
  unfold setHover
  dsimp only
  split
  · case isTrue h => exact h
  · cases node <;> rfl

/-- Time does not move the pointer. -/
lemma node_tick {dt : Float32} (h : s.tick dt = .ok t) : t.hover.node = s.hover.node := by
  obtain ⟨particles, flowTime, passed, rfl, -⟩ := tick_eq_ok h
  rw [Hover.pass]
  dsimp only
  repeat' split
  all_goals rfl

lemma exists_react_of_reactAll_cons {e : HoverEvent} {events : List HoverEvent}
    (h : s.reactAll (e :: events) = .ok t) :
    ∃ next, s.react e = .ok next ∧ next.reactAll events = .ok t := by
  rw [reactAll, List.foldlM_cons] at h
  cases hnext : s.react e with
  | error f =>
      rw [hnext] at h
      cases h
  | ok next =>
      rw [hnext] at h
      exact ⟨next, rfl, h⟩

/-- The pointer is on what it has come to last. -/
lemma node_reactAll {events : List HoverEvent} (h : s.reactAll events = .ok t) :
    t.hover.node = ((events.filterMap HoverEvent.pointed?).getLast?).getD s.hover.node := by
  induction events generalizing s with
  | nil =>
      cases h
      rfl
  | cons e events ih =>
      obtain ⟨next, hnext, hmore⟩ := exists_react_of_reactAll_cons h
      rw [ih hmore]
      cases e with
      | point node =>
          obtain rfl := Except.ok.inj hnext
          have hcons : (HoverEvent.point node :: events).filterMap HoverEvent.pointed?
              = node :: events.filterMap HoverEvent.pointed? := rfl
          rw [node_setHover, hcons, List.getLast?_cons, Option.getD_some]
      | wait dt =>
          rw [node_tick hnext]
          rfl

/-- **The highlight belongs to one focus.**  Whatever the pointer comes to, a particle or not, and
however long it waits in between, the scene of a dataset comes through unless time has to pass over
an edge from a node to itself.  It is on the particle that it has come to last; this one and the
previous one are never there both, and each is kept with just the particles that links join to it.
So only the focus is hovered, the focus and what is joined to it are highlighted, and nothing is iff
there is no focus. -/
theorem focus_reactAll (d : Dataset) (width height : Float) (showEdgeLabels : Bool)
    (events : List HoverEvent) :
    (∃ s, (ofDataset d width height showEdgeLabels).reactAll events = .ok s
        ∧ s.hover.node = ((events.filterMap HoverEvent.pointed?).getLast?).getD none
        ∧ s.hover.Describes d.Joined
        ∧ (∀ i, s.isHovered i = true ↔ s.hover.focus? = some i)
        ∧ (∀ j, s.isHighlighted j = true
            ↔ ∃ i, s.hover.focus? = some i ∧ (j = i ∨ d.Joined i j))
        ∧ (s.hasFocus = false ↔ ∀ j, s.isHighlighted j = false))
      ∨ ((ofDataset d width height showEdgeLabels).reactAll events = .error .selfAttraction
        ∧ (∃ dt, .wait dt ∈ events) ∧ d.HasLoop) := by
  rcases reactAll_cases (Becomes.refl (s := ofDataset d width height showEdgeLabels)) events with
    ⟨s, hs, hbecomes⟩ | hstopped
  · have hdescribes : s.hover.Describes d.Joined :=
      hbecomes.describes (standsFor_ofDataset d _ _ _) (Hover.describes_idle _)
    exact .inl ⟨s, hs, node_reactAll hs, hdescribes, fun i => isHovered_iff hdescribes,
      fun j => isHighlighted_iff hdescribes, hasFocus_eq_false_iff hdescribes⟩
  · rw [looped_ofDataset_iff] at hstopped
    exact .inr hstopped

end Scene

end Retrace
