import Mathlib.Data.List.Induction
import Mathlib.Data.List.Nodup
import Retrace.Proofs.Scene.Gaps
import Retrace.Proofs.Scene.Springs

/-!
How the nodes of a row are spread out.

Nodes of all rows take their first places in turn, in step order, and each one looks only at how
many nodes its own row holds already.  So a row is filled as if the others were not there: from the
centre on, alternately to both sides, without a gap and without taking a column twice.

* **Columns.** `Place.Centred`: columns that are filled from the centre; `Place.centred_range`: the
  columns of so many nodes are, since they are all different (`Place.columnOf_injective`) and form
  an interval (`Place.exists_columnOf_iff`).
* **Rows.** `placesIn_concat`: the place of one more node; by induction `columnsAt_placesIn`: the
  columns of a row are those of its number of nodes, and `nodup_placesIn`: no place is taken twice.
* `Dataset.centred_places`: the first places of the nodes of a graph.
-/

namespace Retrace

namespace Place

/-! ### Columns -/

/-- The columns are filled from the centre, in the order of the list: first the centre itself, then
one to the left, one to the right, two to the left, and so on. -/
structure Centred (columns : List Int) : Prop where
  nodup : columns.Nodup
  /-- They form an interval around the centre. -/
  mem_iff : ∀ c, c ∈ columns
    ↔ -((columns.length / 2 : Nat) : Int) ≤ c ∧ c ≤ ((columns.length : Int) - 1) / 2
  right : ∀ k, 2 * k < columns.length → columns[2 * k]? = some (k : Int)
  left : ∀ k, 2 * k + 1 < columns.length → columns[2 * k + 1]? = some (-(k + 1 : Int))

lemma columnOf_two_mul (k : Nat) : columnOf (2 * k) = k := by
  rw [columnOf, if_pos (by omega)]
  omega

lemma columnOf_two_mul_succ (k : Nat) : columnOf (2 * k + 1) = -(k + 1 : Int) := by
  rw [columnOf, if_neg (by omega)]
  omega

lemma columnOf_injective : Function.Injective columnOf := by
  intro j k h
  unfold columnOf at h
  split at h <;> split at h <;> omega

/-- The columns of so many nodes form an interval. -/
lemma exists_columnOf_iff (m : Nat) (c : Int) :
    (∃ k < m, columnOf k = c) ↔ -((m / 2 : Nat) : Int) ≤ c ∧ c ≤ ((m : Int) - 1) / 2 := by
  constructor
  · rintro ⟨k, hk, rfl⟩
    unfold columnOf
    split <;> omega
  · rintro ⟨hleft, hright⟩
    -- the columns on the left have the odd numbers, the others the even ones
    by_cases hc : c < 0
    · obtain ⟨k, hk⟩ : ∃ k : Nat, c = -(k + 1 : Int) := ⟨(-c - 1).toNat, by omega⟩
      exact ⟨2 * k + 1, by omega, hk ▸ columnOf_two_mul_succ k⟩
    · obtain ⟨k, rfl⟩ := Int.eq_ofNat_of_zero_le (Int.not_lt.1 hc)
      exact ⟨2 * k, by omega, columnOf_two_mul k⟩

/-- The columns of so many nodes are filled from the centre. -/
lemma centred_range (m : Nat) : Centred ((List.range m).map columnOf) where
  nodup := List.nodup_range.map columnOf_injective
  mem_iff c := by
    rw [List.length_map, List.length_range, ← exists_columnOf_iff, List.mem_map]
    simp only [List.mem_range]
  right k hk := by
    rw [List.length_map, List.length_range] at hk
    rw [List.getElem?_map, List.getElem?_range hk, Option.map_some, columnOf_two_mul]
  left k hk := by
    rw [List.length_map, List.length_range] at hk
    rw [List.getElem?_map, List.getElem?_range hk, Option.map_some, columnOf_two_mul_succ]

end Place

/-! ### Rows -/

/-- The columns of the places in a row, in the order of the list. -/
def columnsAt (places : List Place) (row : Nat) : List Int :=
  (places.filter (·.row = row)).map (·.column)

variable {rows : List Nat} {row : Nat}

/-- The place of one more node depends on how many nodes its row holds. -/
lemma placesIn_concat (rows : List Nat) (row : Nat) :
    placesIn (rows ++ [row]) = placesIn rows ++ [⟨Place.columnOf (rows.count row), row⟩] := by
  have hbefore (r i : Nat) (hr : (r, i) ∈ rows.zipIdx) :
      ((rows ++ [row]).take i).count r = (rows.take i).count r := by
    obtain ⟨hlt, -⟩ := List.getElem?_eq_some_iff.1 (List.mk_mem_zipIdx_iff_getElem?.1 hr)
    rw [List.take_append_of_le_length (Nat.le_of_lt hlt)]
  have hlast : ((rows ++ [row]).take rows.length).count row = rows.count row := by
    rw [List.take_left]
  rw [placesIn, List.zipIdx_append, List.map_append, List.zipIdx_singleton, List.map_singleton,
    Nat.zero_add, ← hlast]
  exact congrArg (· ++ _) (List.map_congr_left fun x hx =>
    congrArg (fun earlier => (⟨Place.columnOf earlier, x.1⟩ : Place)) (hbefore x.1 x.2 hx))

/-- The columns of a row are those of its number of nodes. -/
lemma columnsAt_placesIn (rows : List Nat) (row : Nat) :
    columnsAt (placesIn rows) row = (List.range (rows.count row)).map Place.columnOf := by
  induction rows using List.reverseRecOn with
  | nil => rfl
  | append_singleton rows last ih =>
      rw [columnsAt, placesIn_concat, List.filter_append, List.map_append, ← columnsAt, ih,
        List.count_append]
      by_cases h : last = row
      · subst h
        rw [List.filter_cons_of_pos (by simp), List.count_singleton_self, List.range_succ,
          List.map_append]
        rfl
      · rw [List.filter_cons_of_neg (by simpa using h), List.count_singleton,
          if_neg (by simpa using h)]
        exact List.append_nil _

/-- No place is taken twice. -/
lemma nodup_placesIn (rows : List Nat) : (placesIn rows).Nodup := by
  induction rows using List.reverseRecOn with
  | nil => exact .nil
  | append_singleton rows last ih =>
      rw [placesIn_concat, ← List.concat_eq_append, List.nodup_concat]
      refine ⟨fun hmem => ?_, ih⟩
      -- the columns that the row holds are those of smaller numbers
      have hcolumn : Place.columnOf (rows.count last) ∈ columnsAt (placesIn rows) last :=
        List.mem_map.2 ⟨_, List.mem_filter.2 ⟨hmem, by simp⟩, rfl⟩
      rw [columnsAt_placesIn, List.mem_map] at hcolumn
      obtain ⟨k, hk, heq⟩ := hcolumn
      rw [Place.columnOf_injective heq] at hk
      exact absurd (List.mem_range.1 hk) (Nat.lt_irrefl _)

namespace Dataset

variable {d : Dataset} {g : Graph} {i : Nat} {n : Node}

/-! ### The nodes of a graph -/

lemma getElem?_rows (hn : (ofGraph g).nodes[i]? = some n) :
    ∃ row, (ofGraph g).rowOf? n.index = some row ∧ (ofGraph g).rows[i]? = some row := by
  obtain ⟨row, hrow⟩ := exists_rowOf?_of_mem (List.mem_of_getElem? hn)
  refine ⟨row, hrow, ?_⟩
  rw [rows, List.getElem?_map, hn, Option.map_some, ← rowOf?, hrow, Option.getD_some]

/-- A row holds the nodes whose index it is the row of. -/
lemma count_rows (g : Graph) (row : Nat) : (ofGraph g).rows.count row
    = (ofGraph g).nodes.countP fun n => (ofGraph g).rowOf? n.index = some row := by
  rw [rows, List.count, List.countP_map]
  refine List.countP_congr fun n hn => ?_
  obtain ⟨r, hr⟩ := exists_rowOf?_of_mem hn
  rw [Function.comp_apply, ← rowOf?, hr, Option.getD_some, beq_iff_eq, decide_eq_true_iff,
    Option.some.injEq]

/-- Each node has a place in the row of its index. -/
lemma getElem?_places (hn : (ofGraph g).nodes[i]? = some n) :
    ∃ p, (ofGraph g).places[i]? = some p ∧ (ofGraph g).rowOf? n.index = some p.row := by
  obtain ⟨row, hrow, hrows⟩ := getElem?_rows hn
  refine ⟨⟨Place.columnOf (((ofGraph g).rows.take i).count row), row⟩, ?_, hrow⟩
  rw [places, placesIn, List.getElem?_map, List.getElem?_zipIdx, hrows]
  simp

/-- **Nodes are never stacked**: each node has a place of its own, in the row of its index, and its
particle starts there; and whatever the rows of the other nodes are, the nodes of one row fill its
columns from the centre, in step order. -/
theorem centred_places (g : Graph) (width height : Float) (showEdgeLabels : Bool) :
    (ofGraph g).places.length = (ofGraph g).nodes.length
    ∧ (ofGraph g).places.Nodup
    ∧ (∀ (i : Nat) (n : Node), (ofGraph g).nodes[i]? = some n →
        ∃ (place : Place) (particle : Particle),
          (ofGraph g).places[i]? = some place
          ∧ (ofGraph g).rowOf? n.index = some place.row
          ∧ (Scene.ofDataset (ofGraph g) width height showEdgeLabels).particles[i]? = some particle
          ∧ particle.body.x = Precision.narrow (Float.ofInt place.column * 60)
          ∧ particle.body.y = Precision.narrow (Float.ofNat place.row * 70))
    ∧ ∀ row, Place.Centred (columnsAt (ofGraph g).places row)
        ∧ (columnsAt (ofGraph g).places row).length
            = (ofGraph g).nodes.countP fun n => (ofGraph g).rowOf? n.index = some row := by
  refine ⟨Scene.length_places _, nodup_placesIn _, fun i n hn => ?_, fun row => ?_⟩
  · obtain ⟨place, hplace, hrow⟩ := getElem?_places hn
    refine ⟨place, Scene.particleOf n place, hplace, hrow, ?_, rfl, rfl⟩
    rw [Scene.ofDataset, List.getElem?_zipWith, hn, hplace]
  · rw [places, columnsAt_placesIn, List.length_map, List.length_range, count_rows]
    exact ⟨Place.centred_range _, rfl⟩

/-- Four nodes, two of them with one index, share a row, and a node that is not reached stands
between them in step order. -/
def crowded : Graph where
  nodes := [
    ⟨0, "", .plain, 0, none, false⟩, ⟨1, "", .plain, 1, none, false⟩,
    ⟨2, "", .plain, 2, none, false⟩, ⟨9, "", .plain, 3, none, false⟩,
    ⟨2, "", .plain, 4, none, false⟩, ⟨3, "", .plain, 5, none, false⟩]
  edges := [⟨0, 1, "", -1⟩, ⟨0, 2, "", -1⟩, ⟨0, 3, "", -1⟩]

theorem centred_crowded :
    columnsAt (ofGraph crowded).places 1 = [0, -1, 1, -2]
    ∧ Place.Centred (columnsAt (ofGraph crowded).places 1)
    ∧ (ofGraph crowded).places.Nodup
    ∧ ∃ place : Place, (ofGraph crowded).places[4]? = some place
        ∧ (ofGraph crowded).rowOf? 2 = some place.row := by
  obtain ⟨-, hnodup, hplaces, hrows⟩ := centred_places crowded 800 600 true
  have hnode : (ofGraph crowded).nodes[4]? = some ⟨2, "", .plain, 4, none, false⟩ := by cbv
  obtain ⟨place, -, hplace, hrow, -⟩ := hplaces 4 _ hnode
  exact ⟨by cbv, (hrows 1).1, hnodup, place, hplace, hrow⟩

end Dataset

end Retrace
