import Retrace.Graph.Basic

/-!
Finite sets of node indices.

A set keeps its members in ascending order, each once, so equal sets are equal values and
`toList` is the order in which they are shown.

* `mem_insert`, `mem_erase`, `mem_ofList`: the members after each operation;
* `IdSet.ext`: a set is known by its members.
-/

namespace Retrace

/-- A finite set of node indices. -/
structure IdSet where
  toList : List NodeId
  ascending : toList.Pairwise (· < ·)
  deriving DecidableEq

namespace IdSet

instance : Membership NodeId IdSet where
  mem s a := a ∈ s.toList

instance (a : NodeId) (s : IdSet) : Decidable (a ∈ s) :=
  inferInstanceAs (Decidable (a ∈ s.toList))

theorem mem_def {a : NodeId} {s : IdSet} : a ∈ s ↔ a ∈ s.toList := Iff.rfl

/-- The set without members. -/
def empty : IdSet := ⟨[], .nil⟩

instance : EmptyCollection IdSet := ⟨empty⟩

@[simp] theorem not_mem_empty (a : NodeId) : a ∉ (∅ : IdSet) := List.not_mem_nil

/-- The number of members. -/
def size (s : IdSet) : Nat := s.toList.length

/-- Adds an index. -/
def insert (a : NodeId) (s : IdSet) : IdSet where
  toList := s.toList.filter (· < a) ++ a :: s.toList.filter (a < ·)
  ascending := by
    refine List.pairwise_append.2 ⟨s.ascending.filter _, ?_, ?_⟩
    · refine List.pairwise_cons.2 ⟨fun b hb => ?_, s.ascending.filter _⟩
      simpa using (List.mem_filter.1 hb).2
    · intro b hb c hc
      have hba : b < a := by simpa using (List.mem_filter.1 hb).2
      rcases List.mem_cons.1 hc with rfl | hc
      · exact hba
      · have hac : a < c := by simpa using (List.mem_filter.1 hc).2
        exact UInt32.lt_trans hba hac

@[simp] theorem mem_insert {a b : NodeId} {s : IdSet} : b ∈ s.insert a ↔ b = a ∨ b ∈ s := by
  simp only [mem_def, insert, List.mem_append, List.mem_cons, List.mem_filter, decide_eq_true_eq]
  constructor
  · rintro (⟨h, -⟩ | h | ⟨h, -⟩)
    · exact .inr h
    · exact .inl h
    · exact .inr h
  · rintro (h | h)
    · exact .inr (.inl h)
    · rcases Nat.lt_trichotomy b.toNat a.toNat with hlt | heq | hgt
      · exact .inl ⟨h, UInt32.lt_iff_toNat_lt.2 hlt⟩
      · exact .inr (.inl (UInt32.toNat_inj.1 heq))
      · exact .inr (.inr ⟨h, UInt32.lt_iff_toNat_lt.2 hgt⟩)

/-- Takes an index out. -/
def erase (a : NodeId) (s : IdSet) : IdSet :=
  ⟨s.toList.filter (· ≠ a), s.ascending.filter _⟩

@[simp] theorem mem_erase {a b : NodeId} {s : IdSet} : b ∈ s.erase a ↔ b ∈ s ∧ b ≠ a := by
  simp [mem_def, erase]

/-- The set of the indices in a list. -/
def ofList (l : List NodeId) : IdSet := l.foldr insert ∅

@[simp] theorem mem_ofList {a : NodeId} {l : List NodeId} : a ∈ ofList l ↔ a ∈ l := by
  induction l with
  | nil => simp [ofList]
  | cons b l ih => simpa [ofList] using or_congr_right ih

/-- A set is known by its members. -/
@[ext] theorem ext {s t : IdSet} (h : ∀ a, a ∈ s ↔ a ∈ t) : s = t := by
  obtain ⟨l, hl⟩ := s
  obtain ⟨m, hm⟩ := t
  have : l.Perm m :=
    (List.perm_ext_iff_of_nodup (hl.imp fun h => UInt32.ne_of_lt h)
      (hm.imp fun h => UInt32.ne_of_lt h)).2 h
  have : l = m :=
    this.eq_of_pairwise (fun a b _ _ h h' => absurd h (UInt32.lt_asymm h')) hl hm
  subst this
  rfl

end IdSet

end Retrace
