import Mathlib.Tactic.Lemma
import Retrace.Json.Record

/-!
What holds of everything that is read.

* `Gives`: a property that every value has which a reader takes off a text;
* `Gives.map`, `Gives.list`: readers built from others;
* `Field.Keeps`: a property of drafts that filling the field leaves alone;
* `Shape.gives_record`: a property of drafts that every field keeps holds of the finished draft,
  whether the record is written as an object or as a list, and whatever unknown fields it has.
-/

namespace Retrace.Json

variable {α β δ : Type}

/-- Two computations in a row succeed if the first one does, and then the second. -/
lemma bind_eq_ok {ε : Type} {x : Except ε α} {f : α → Except ε β} {b : β} :
    (x >>= f) = .ok b ↔ ∃ a, x = .ok a ∧ f a = .ok b := by
  cases x with
  | error e => simp [bind, Except.bind]
  | ok a => simp [bind, Except.bind]

/-- Every value that the reader takes off a text has the property. -/
def Gives (value : Reader α) (P : α → Prop) : Prop :=
  ∀ s a rest, value s = .ok (a, rest) → P a

lemma gives_true (value : Reader α) : Gives value fun _ => True := fun _ _ _ _ => trivial

lemma Gives.map {value : Reader α} {P : α → Prop} {Q : β → Prop} (h : Gives value P) {f : α → β}
    (hf : ∀ a, P a → Q (f a)) : Gives (fun s => (value s).map fun (a, r) => (f a, r)) Q := by
  intro s b rest hb
  dsimp only at hb
  cases hvalue : value s with
  | error e =>
      rw [hvalue] at hb
      cases hb
  | ok x =>
      obtain ⟨a, r⟩ := x
      rw [hvalue] at hb
      cases hb
      exact hf a (h s a r hvalue)

/-! ### Lists -/

variable {value : Reader α} {P : α → Prop}

lemma Gives.elements (h : Gives value P) {read : List α} {first : Bool} {s : List Char}
    {as : List α} {rest : List Char} (hread : ∀ a ∈ read, P a)
    (has : elements value read first s = .ok (as, rest)) : ∀ a ∈ as, P a := by
  fun_induction Json.elements value read first s with
  | case1 => cases has
  | case2 =>
      cases has
      intro a ha
      exact hread a (List.mem_reverse.1 ha)
  | case3 => cases has
  | case4 read _ _ _ _ a _ hvalue _ ih =>
      refine ih (fun b hb => ?_) has
      rcases List.mem_cons.1 hb with rfl | hb
      · exact h _ _ _ hvalue
      · exact hread b hb
  | case5 => cases has

lemma Gives.list (h : Gives value P) : Gives (list value) fun as => ∀ a ∈ as, P a := by
  intro s as rest has
  rw [Json.list] at has
  split at has
  · exact h.elements (fun a ha => absurd ha List.not_mem_nil) has
  · cases has

/-! ### Records -/

/-- Whatever the field is filled with, a draft with the property is left with it. -/
def Field.Keeps (Inv : δ → Prop) (f : Field δ) : Prop :=
  ∀ d, Inv d → Gives (f.read d) Inv

/-- A field fills a draft with what its reader gives. -/
lemma Field.keeps_of {value : Reader β} {Q : β → Prop} (h : Gives value Q) {name : String}
    {get : δ → Option β} {set : δ → β → δ} {Inv : δ → Prop}
    (hset : ∀ d b, Inv d → Q b → Inv (set d b)) : (Field.of name get set value).Keeps Inv :=
  fun d hd => h.map fun b hb => hset d b hd hb

namespace Shape

variable {shape : Shape δ α} {Inv : δ → Prop}

/-- An entry fills one field, or is passed over. -/
lemma inv_entry (hfields : ∀ f ∈ shape.fields, f.Keeps Inv) {d next : δ} {s rest : List Char}
    (hd : Inv d) (h : shape.entry d s = .ok (next, rest)) : Inv next := by
  rw [entry] at h
  split at h
  · cases h
  · case _ key r _ =>
      split at h
      · -- the value of an unknown key is checked and left out
        obtain ⟨t, -, h⟩ := bind_eq_ok.1 h
        obtain ⟨u, -, h⟩ := bind_eq_ok.1 h
        cases h
        exact hd
      · case _ field hfield =>
          split at h
          · cases h
          · obtain ⟨t, -, h⟩ := bind_eq_ok.1 h
            exact hfields field (List.mem_of_find?_eq_some hfield) d hd t next rest h

lemma inv_entries (hfields : ∀ f ∈ shape.fields, f.Keeps Inv) {d last : δ} {first : Bool}
    {s rest : List Char} (hd : Inv d) (h : shape.entries d first s = .ok (last, rest)) :
    Inv last := by
  fun_induction entries shape d first s with
  | case1 => cases h
  | case2 =>
      cases h
      exact hd
  | case3 => cases h
  | case4 _ _ _ _ _ _ _ hentry _ ih => exact ih (inv_entry hfields hd hentry) h
  | case5 => cases h

lemma inv_inOrder {fields : List (Field δ)} (hfields : ∀ f ∈ fields, f.Keeps Inv) {d last : δ}
    {first : Bool} {s rest : List Char} (hd : Inv d)
    (h : inOrder fields d first s = .ok (last, rest)) : Inv last := by
  induction fields generalizing d first s with
  | nil =>
      cases h
      exact hd
  | cons field more ih =>
      rw [inOrder] at h
      split at h
      · cases h
      · cases h
        exact hd
      · split at h
        · cases h
        · case _ next t hnext =>
            have hmore := fun f hf => hfields f (List.mem_cons_of_mem field hf)
            exact ih hmore (hfields field (List.mem_cons_self ..) d hd _ next t hnext) h

/-- **What holds of every record**: it is a property of the finished drafts that the start has and
every field keeps. -/
theorem gives_record (Inv : δ → Prop) (hstart : Inv shape.start)
    (hfields : ∀ f ∈ shape.fields, f.Keeps Inv)
    (hfinish : ∀ d a, Inv d → shape.finish d = .ok a → P a) : Gives shape.record P := by
  intro s a rest h
  rw [record] at h
  split at h
  · obtain ⟨⟨d, t⟩, hentries, h⟩ := bind_eq_ok.1 h
    dsimp only at h
    split at h
    · cases h
    · case _ b hb =>
        cases h
        exact hfinish d a (inv_entries hfields hstart hentries) hb
  · obtain ⟨⟨d, t⟩, hfilled, h⟩ := bind_eq_ok.1 h
    dsimp only at h
    split at h
    · cases h
    · case _ b hb =>
        obtain ⟨u, -, h⟩ := bind_eq_ok.1 h
        cases h
        exact hfinish d a (inv_inOrder hfields hstart hfilled) hb
  · cases h

end Shape

end Retrace.Json
