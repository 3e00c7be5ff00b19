import Mathlib.Tactic.Lemma
import Retrace.Dataset

/-!
Computations that stop at what a machine refuses.

A list that is changed past its end stays as it is, and sums have no bound.  On a machine such an
access and such a sum end the program.  Here they stop the computation with a `Panic`, and what
goes through has the value that the list and the sum have.

* `Guarded.prefixTo`, `Guarded.modify`: accesses to a list;
* `Guarded.next`, `Guarded.increment`: one more, in a word of the size of an address and in 64 bits;
* `Guarded.foldlM_eq_ok`, `Guarded.mapM_eq_ok`: steps that go through make a run that does;
* `Graph.InMemory`: the graph fits the memory of the machine.
-/

namespace Retrace

/-- What ends a program in the middle. -/
inductive Panic where
  /-- A place past the end of a list. -/
  | outOfBounds
  /-- A sum that its word does not hold. -/
  | overflow
  deriving DecidableEq, Repr

/-- The lists of the graph are held in memory, which no list can take more than half of. -/
structure Graph.InMemory (g : Graph) : Prop where
  nodes : 2 * g.nodes.length < USize.size
  edges : 2 * g.edges.length < USize.size

namespace Guarded

variable {α β : Type}

/-! ### Checks -/

/-- The entries up to a place, which has to be one of the list. -/
def prefixTo (xs : List α) (last : Nat) : Except Panic (List α) :=
  if last < xs.length then .ok (xs.take (last + 1)) else .error .outOfBounds

/-- Changes the entry at a place, which has to be one of the list. -/
def modify (change : α → α) (xs : List α) (i : Nat) : Except Panic (List α) :=
  if i < xs.length then .ok (xs.modify i change) else .error .outOfBounds

/-- One more, in a word that can hold an address. -/
def next (n : Nat) : Except Panic Nat :=
  if n + 1 < USize.size then .ok (n + 1) else .error .overflow

/-- One more, in a signed word of 64 bits. -/
def increment (i : Int64) : Except Panic Int :=
  if i.toInt + 1 ≤ Int64.maxValue.toInt then .ok (i.toInt + 1) else .error .overflow

lemma next_eq {n : Nat} (h : n + 1 < USize.size) : next n = .ok (n + 1) := if_pos h

lemma increment_eq {i : Int64} (h : i ≠ Int64.maxValue) : increment i = .ok (i.toInt + 1) := by
  have hne : i.toInt ≠ Int64.maxValue.toInt := fun heq => h (Int64.toInt_inj.1 heq)
  have hle : i.toInt ≤ Int64.maxValue.toInt := i.toInt_le
  exact if_pos (by omega)

/-! ### Runs of guarded steps -/

/-- Guarded steps go through if each of them does in every state that has an invariant, and keeps
the invariant. -/
lemma foldlM_eq_ok {step : β → α → Except Panic β} {plain : β → α → β} {xs : List α}
    (Inv : β → Prop)
    (hstep : ∀ b, Inv b → ∀ x ∈ xs, step b x = .ok (plain b x) ∧ Inv (plain b x)) {b : β}
    (hb : Inv b) : xs.foldlM step b = .ok (xs.foldl plain b) ∧ Inv (xs.foldl plain b) := by
  induction xs generalizing b with
  | nil => exact ⟨rfl, hb⟩
  | cons x xs ih =>
      obtain ⟨hx, hinv⟩ := hstep b hb x (List.mem_cons_self ..)
      rw [List.foldlM_cons, hx, List.foldl_cons]
      exact ih (fun c hc y hy => hstep c hc y (List.mem_cons_of_mem x hy)) hinv

lemma mapM_eq_ok {f : α → Except Panic β} {plain : α → β} {xs : List α}
    (h : ∀ x ∈ xs, f x = .ok (plain x)) : xs.mapM f = .ok (xs.map plain) := by
  induction xs with
  | nil => rfl
  | cons x xs ih =>
      rw [List.mapM_cons, h x (List.mem_cons_self ..),
        ih fun y hy => h y (List.mem_cons_of_mem x hy)]
      rfl

end Guarded

end Retrace
