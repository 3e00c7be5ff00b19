import Retrace.Graph.Basic

/-!
Edges grouped by one of their ends.

An `Adjacency` keeps a bucket of edges for each node index that occurs.  `get_add`: adding an edge
appends it to the bucket of its end and leaves the others alone, so every bucket holds its edges in
the order in which they came.
-/

namespace Retrace

/-- Edges by the index of one of their ends. -/
structure Adjacency where
  buckets : List (NodeId × List EdgeId)
  deriving DecidableEq

namespace Adjacency

/-- No edges at all. -/
def empty : Adjacency := ⟨[]⟩

/-- The bucket of an index in a list of buckets; empty if it has none. -/
def find (id : NodeId) : List (NodeId × List EdgeId) → List EdgeId
  | [] => []
  | (i, es) :: more => if id = i then es else find id more

/-- The edges at an index; none if it never occurred. -/
def get (a : Adjacency) (id : NodeId) : List EdgeId := find id a.buckets

/-- Appends an edge to the bucket of an index, in a list of buckets. -/
def push (id : NodeId) (e : EdgeId) : List (NodeId × List EdgeId) → List (NodeId × List EdgeId)
  | [] => [(id, [e])]
  | (i, es) :: more => if id = i then (i, es ++ [e]) :: more else (i, es) :: push id e more

/-- Adds an edge at an index. -/
def add (a : Adjacency) (id : NodeId) (e : EdgeId) : Adjacency := ⟨push id e a.buckets⟩

@[simp] theorem get_empty (id : NodeId) : empty.get id = [] := rfl

theorem get_add (a : Adjacency) (id i : NodeId) (e : EdgeId) :
    (a.add i e).get id = if id = i then a.get id ++ [e] else a.get id := by
  obtain ⟨bs⟩ := a
  simp only [add, get]
  induction bs with
  | nil => simp [push, find]
  | cons b bs ih =>
    obtain ⟨j, es⟩ := b
    by_cases hij : i = j
    · subst hij
      by_cases h : id = i <;> simp [push, find, h]
    · by_cases hj : id = j
      · subst hj
        simp [push, find, hij, Ne.symm hij]
      · simpa [push, find, hij, hj] using ih

end Adjacency

end Retrace
