import Mathlib.Data.List.Forall2
import Mathlib.Tactic.Lemma
import Retrace.Json.Record
import Retrace.Proofs.Json.Numerals
import Retrace.Proofs.Json.Strings

/-!
Written values are read back.

A reader reads a written form back if it takes the form, and nothing more, off the front of every
text in which the value may end there.  This is closed under everything that values are built with:

* `ReadsBack.map`: a function of a value that is read back;
* `readsBack_integer`, `readsBack_text`, `readsBack_boolean`, `readsBack_optional`: scalars;
* `readsBack_list`: lists of values that are read back;
* `Shape.Fills`, `readsBack_record`: records whose written entries fill the draft one by one.
-/

namespace Retrace.Json

variable {α β : Type}

/-! ### Written forms -/

/-- The first character of the text is no blank and does not end a list. -/
def Opens (s : List Char) : Prop := ∃ c r, s = c :: r ∧ isBlank c = false ∧ c ≠ ']'

/-- The reader takes the written form off the front of every text in which a value may end behind
it, and takes it for the given value. -/
structure ReadsBack (value : Reader α) (s : List Char) (a : α) : Prop where
  opens : Opens s
  reads : ∀ rest, Closes rest → value (s ++ rest) = .ok (a, rest)

lemma Opens.skipBlanks_append {s : List Char} (h : Opens s) (rest : List Char) :
    skipBlanks (s ++ rest) = s ++ rest := by
  obtain ⟨c, r, rfl, hblank, -⟩ := h
  exact skipBlanks_cons hblank (r ++ rest)

/-- A reader that makes something of what another one reads. -/
lemma ReadsBack.map {value : Reader α} {s : List Char} {a : α} (h : ReadsBack value s a)
    (f : α → β) : ReadsBack (fun s => (value s).map fun (a, r) => (f a, r)) s (f a) where
  opens := h.opens
  reads rest hrest := by
    rw [h.reads rest hrest]
    rfl

/-! ### Scalars -/

lemma opens_printInt (n : Int) :
    ∃ c r, printInt n = c :: r ∧ isBlank c = false ∧ c ≠ ']' ∧ startsNumber c ∧ c ≠ 'n' := by
  have hdigits : ∀ c : Char, c.isDigit →
      isBlank c = false ∧ c ≠ ']' ∧ startsNumber c ∧ c ≠ 'n' := by
    intro c hc
    have hne : ∀ d : Char, d.isDigit = false → c ≠ d := by
      rintro d hd rfl
      exact Bool.false_ne_true (hd.symm.trans hc)
    refine ⟨?_, hne ']' rfl, by simp [startsNumber, hc], hne 'n' rfl⟩
    simp [isBlank, hne ' ' rfl, hne '\n' rfl, hne '\t' rfl, hne '\r' rfl]
  obtain ⟨c, ds, hds, -⟩ := head_printNat n.natAbs
  have hc : c.isDigit := isDigit_of_mem_printNat (hds ▸ List.mem_cons_self ..)
  by_cases hneg : n < 0
  · refine ⟨'-', printNat n.natAbs, by rw [printInt, if_pos hneg], ?_⟩
    decide
  · exact ⟨c, ds, by rw [printInt, if_neg hneg, hds], hdigits c hc⟩

lemma readsBack_integer (low high : Int) (wanted : String) {n : Int} (hlow : low ≤ n)
    (hhigh : n ≤ high) (hmin : Int64.minValue.toInt ≤ n) (hmax : n < UInt64.size) :
    ReadsBack (integer low high wanted) (printInt n) n := by
  obtain ⟨c, r, hprint, hblank, hclose, hstarts, -⟩ := opens_printInt n
  refine ⟨⟨c, r, hprint, hblank, hclose⟩, fun rest hrest => ?_⟩
  have hnumeral := numeral_printInt hmin hmax hrest
  rw [hprint, List.cons_append] at hnumeral ⊢
  rw [integer, skipBlanks_cons hblank]
  simp only [hstarts, if_true, hnumeral, hlow, hhigh, and_self]

lemma readsBack_natural32 (n : UInt32) : ReadsBack natural32 (printNat n.toNat) n := by
  have hlt : n.toNat < 2 ^ 32 := n.toNat_lt
  have hmin : Int64.minValue.toInt ≤ 0 := by decide
  have hmax : (2 : Int) ^ 32 ≤ UInt64.size := by decide
  have h := (readsBack_integer 0 0xffffffff "u32" (n := n.toNat) (by omega) (by omega) (by omega)
    (by omega)).map fun n => UInt32.ofNat n.toNat
  have hprint : printInt n.toNat = printNat n.toNat := by simp [printInt]
  rwa [hprint, Int.toNat_natCast, UInt32.ofNat_toNat] at h

lemma readsBack_integer64 (n : Int64) : ReadsBack integer64 (printInt n.toInt) n := by
  have hlow := n.minValue_le_toInt
  have hhigh := n.toInt_le
  have h := (readsBack_integer _ _ "i64" hlow hhigh hlow
    (Int.lt_of_le_of_lt hhigh (by decide))).map Int64.ofInt
  rwa [Int64.ofInt_toInt] at h

lemma readsBack_text (s : String) : ReadsBack text (printText s) s where
  opens := ⟨'"', s.toList.flatMap escaped ++ ['"'], rfl, by decide, by decide⟩
  reads rest _ := by
    have hprint : printText s ++ rest = '"' :: (s.toList.flatMap escaped ++ '"' :: rest) := by
      simp [printText, printChars]
    rw [hprint, text, skipBlanks_cons (by decide)]
    simp only [stringBody_printChars]
    simp [Except.map]

lemma readsBack_boolean (b : Bool) : ReadsBack boolean (printBool b) b := by
  cases b with
  | true =>
      refine ⟨⟨'t', ['r', 'u', 'e'], rfl, by decide, by decide⟩, fun rest _ => ?_⟩
      rw [printBool, List.cons_append, boolean, skipBlanks_cons (by decide)]
      exact congrArg (Except.map fun x => (true, x.2)) (word_append "rue".toList rest)
  | false =>
      refine ⟨⟨'f', ['a', 'l', 's', 'e'], rfl, by decide, by decide⟩, fun rest _ => ?_⟩
      rw [printBool, List.cons_append, boolean, skipBlanks_cons (by decide)]
      exact congrArg (Except.map fun x => (false, x.2)) (word_append "alse".toList rest)

/-- `null` stands for no value, so the written form of a value must not start like it. -/
lemma readsBack_optional {value : Reader α} {print : α → List Char}
    (hvalue : ∀ a, ReadsBack value (print a) a) (hnull : ∀ a, (print a).head? ≠ some 'n')
    (x : Option α) : ReadsBack (optional value) (printOption print x) x := by
  cases x with
  | none =>
      refine ⟨⟨'n', ['u', 'l', 'l'], rfl, by decide, by decide⟩, fun rest _ => ?_⟩
      rw [printOption, List.cons_append, optional, skipBlanks_cons (by decide)]
      exact congrArg (Except.map fun x => (none, x.2)) (word_append "ull".toList rest)
  | some a =>
      refine ⟨(hvalue a).opens, fun rest hrest => ?_⟩
      have hreads := (hvalue a).reads rest hrest
      rw [printOption, optional, (hvalue a).opens.skipBlanks_append]
      split
      · case _ r hr =>
          obtain ⟨c, t, hprint, -⟩ := (hvalue a).opens
          rw [hprint, List.cons_append] at hr
          have := hnull a
          rw [hprint] at this
          exact absurd (congrArg some (List.cons.inj hr).1) this
      · rw [hreads]
        rfl

/-! ### Lists -/

/-- Written values behind the first one each have their comma in front. -/
lemma separated_cons (s : List Char) (more : List (List Char)) :
    separated (s :: more) = s ++ more.flatMap (',' :: ·) := by
  induction more generalizing s with
  | nil => simp [separated]
  | cons t more ih => simp [separated, ih]

/-- What is left of the values behind a value may follow it. -/
lemma closes_separated {β : Type} (form : β → List Char) (xs : List β) {c : Char}
    (hc : c = ',' ∨ c = ']' ∨ c = '\x7d') (rest : List Char) :
    Closes (xs.flatMap (fun x => ',' :: form x) ++ c :: rest) := by
  cases xs with
  | nil => exact closes_cons hc rest
  | cons x xs => exact closes_cons (.inl rfl) _

lemma nextElement_close (first : Bool) (rest : List Char) :
    nextElement first (']' :: rest) = .ok (false, ']' :: rest) := by
  rw [nextElement, skipBlanks_cons (by decide)]
  rfl

lemma nextElement_first {s : List Char} (h : Opens s) (rest : List Char) :
    nextElement true (s ++ rest) = .ok (true, s ++ rest) := by
  rw [nextElement, h.skipBlanks_append]
  obtain ⟨c, r, rfl, -, hclose⟩ := h
  rw [List.cons_append]
  split
  · case _ hnil => cases hnil
  · case _ hcons => exact absurd (List.cons.inj hcons).1 hclose
  · case _ hcons => rw [hcons]; rfl

lemma nextElement_comma {s : List Char} (h : Opens s) (rest : List Char) :
    nextElement false (',' :: (s ++ rest)) = .ok (true, s ++ rest) := by
  obtain ⟨c, r, rfl, hblank, hclose⟩ := h
  have hrest : skipBlanks (c :: (r ++ rest)) = c :: (r ++ rest) := skipBlanks_cons hblank _
  rw [List.cons_append, nextElement, skipBlanks_cons (by decide)]
  simp [hrest, hclose]

variable {value : Reader α}

/-- An element that is read back is taken off, and the elements behind it are read. -/
lemma elements_cons {s t : List Char} {a : α} (h : ReadsBack value s a) {first : Bool}
    {rest : List Char} (hrest : Closes rest)
    (hnext : nextElement first t = .ok (true, s ++ rest)) (hlength : rest.length < t.length)
    (read : List α) :
    elements value read first t = elements value (a :: read) false rest := by
  rw [elements, hnext]
  simp only [h.reads rest hrest, if_pos hlength]

/-- Elements behind the first one are read up to the closing bracket. -/
lemma elements_more {forms : List (List Char)} {as : List α}
    (h : List.Forall₂ (ReadsBack value) forms as) (read : List α) (rest : List Char) :
    elements value read false (forms.flatMap (',' :: ·) ++ ']' :: rest)
      = .ok (read.reverse ++ as, rest) := by
  induction h generalizing read with
  | nil =>
      rw [List.flatMap_nil, List.nil_append, elements, nextElement_close]
      simp
  | @cons s a forms as hs _ ih =>
      have hcloses : Closes (forms.flatMap (',' :: ·) ++ ']' :: rest) :=
        closes_separated id forms (.inr (.inl rfl)) rest
      have hform : (s :: forms).flatMap (',' :: ·) ++ ']' :: rest
          = ',' :: (s ++ (forms.flatMap (',' :: ·) ++ ']' :: rest)) := by simp
      rw [hform, elements_cons hs hcloses (nextElement_comma hs.opens _)
        (by simp only [List.length_cons, List.length_append]; omega), ih]
      simp

lemma readsBack_list {forms : List (List Char)} {as : List α}
    (h : List.Forall₂ (ReadsBack value) forms as) :
    ReadsBack (list value) ('[' :: separated forms ++ [']']) as where
  opens := ⟨'[', separated forms ++ [']'], rfl, by decide, by decide⟩
  reads rest _ := by
    have hform : '[' :: separated forms ++ [']'] ++ rest
        = '[' :: (separated forms ++ ']' :: rest) := by simp
    have hlist : list value ('[' :: (separated forms ++ ']' :: rest))
        = elements value [] true (separated forms ++ ']' :: rest) := by
      rw [list, skipBlanks_cons (by decide)]
      rfl
    rw [hform, hlist]
    cases h with
    | nil =>
        rw [separated, List.nil_append, elements, nextElement_close]
        rfl
    | @cons s a forms as hs hmore =>
        have hcloses : Closes (forms.flatMap (',' :: ·) ++ ']' :: rest) :=
          closes_separated id forms (.inr (.inl rfl)) rest
        have hpos : 0 < s.length := by
          obtain ⟨c, r, rfl, -⟩ := hs.opens
          exact Nat.succ_pos _
        rw [separated_cons, List.append_assoc, elements_cons hs hcloses
          (nextElement_first hs.opens _) (by simp only [List.length_append]; omega),
          elements_more hmore]
        rfl

/-! ### Records -/

namespace Shape

variable {δ : Type}

/-- Written entries fill the draft one after the other: each names a field that is still empty, and
its form is read back. -/
inductive Fills (shape : Shape δ α) : δ → List (String × List Char) → δ → Prop
  | done (d : δ) : shape.Fills d [] d
  | entry {d next last : δ} {field : Field δ} {form : List Char} {more : List (String × List Char)}
    (hfield : shape.fields.find? (·.name == field.name) = some field)
    (hempty : field.filled d = false) (hread : ReadsBack (field.read d) form next)
    (hmore : shape.Fills next more last) : shape.Fills d ((field.name, form) :: more) last

variable {shape : Shape δ α}

/-- The next entry fills a field of the draft with a value that is read back. -/
lemma Fills.field {name : String} {get : δ → Option β} {set : δ → β → δ} {value : Reader β}
    {d last : δ} {form : List Char} {b : β} {more : List (String × List Char)}
    (hfield : shape.fields.find? (·.name == name) = some (.of name get set value))
    (hempty : (get d).isSome = false) (hread : ReadsBack value form b)
    (hmore : shape.Fills (set d b) more last) : shape.Fills d ((name, form) :: more) last := by
  have hfill : ReadsBack ((Field.of name get set value).read d) form (set d b) := hread.map (set d)
  show shape.Fills d (((Field.of name get set value).name, form) :: more) last
  exact .entry hfield hempty hfill hmore

lemma nextKey_close (first : Bool) (rest : List Char) :
    nextKey first ('\x7d' :: rest) = .ok (false, '\x7d' :: rest) := by
  rw [nextKey, skipBlanks_cons (by decide)]
  rfl

lemma nextKey_first (rest : List Char) : nextKey true ('"' :: rest) = .ok (true, rest) := by
  rw [nextKey, skipBlanks_cons (by decide)]
  rfl

lemma nextKey_comma (rest : List Char) : nextKey false (',' :: '"' :: rest) = .ok (true, rest) := by
  have hquote : skipBlanks ('"' :: rest) = '"' :: rest := skipBlanks_cons (by decide) rest
  rw [nextKey, skipBlanks_cons (by decide)]
  simp [hquote]

/-- The written form of an entry. -/
def entryForm (e : String × List Char) : List Char := printText e.1 ++ ':' :: e.2

lemma entry_append {d next : δ} {field : Field δ} {form : List Char}
    (hfield : shape.fields.find? (·.name == field.name) = some field)
    (hempty : field.filled d = false) (hread : ReadsBack (field.read d) form next)
    {rest : List Char} (hrest : Closes rest) :
    shape.entry d (field.name.toList.flatMap escaped ++ '"' :: ':' :: (form ++ rest))
      = .ok (next, rest) := by
  have hcolon : colon (':' :: (form ++ rest)) = .ok (form ++ rest) := by
    rw [colon, skipBlanks_cons (by decide)]
    rfl
  rw [entry, stringBody_printChars]
  simp only [List.reverse_nil, List.nil_append, String.ofList_toList, hfield, hempty,
    Bool.false_eq_true, if_false, hcolon]
  exact hread.reads rest hrest

/-- An entry is taken off, and the entries behind it are read. -/
lemma entries_cons {d next : δ} {field : Field δ} {form : List Char}
    (hfield : shape.fields.find? (·.name == field.name) = some field)
    (hempty : field.filled d = false) (hread : ReadsBack (field.read d) form next)
    {first : Bool} {t rest : List Char} (hrest : Closes rest)
    (hnext : nextKey first t
      = .ok (true, field.name.toList.flatMap escaped ++ '"' :: ':' :: (form ++ rest)))
    (hlength : rest.length < t.length) :
    shape.entries d first t = shape.entries next false rest := by
  rw [entries, hnext]
  simp only [entry_append hfield hempty hread hrest, if_pos hlength]

/-- Entries behind the first one are read up to the closing bracket. -/
lemma entries_more {d last : δ} {es : List (String × List Char)} (h : shape.Fills d es last)
    (rest : List Char) :
    shape.entries d false (es.flatMap (',' :: entryForm ·) ++ '\x7d' :: rest)
      = .ok (last, '\x7d' :: rest) := by
  induction h with
  | done d => rw [List.flatMap_nil, List.nil_append, entries, nextKey_close]
  | @entry d next last field form more hfield hempty hread _ ih =>
      have hcloses := closes_separated entryForm more (.inr (.inr rfl)) rest
      have hform : ((field.name, form) :: more).flatMap (',' :: entryForm ·) ++ '\x7d' :: rest
          = ',' :: '"' :: (field.name.toList.flatMap escaped
            ++ '"' :: ':' :: (form ++ (more.flatMap (',' :: entryForm ·) ++ '\x7d' :: rest))) := by
        simp [entryForm, printText, printChars]
      rw [hform, entries_cons hfield hempty hread hcloses (nextKey_comma _)
        (by simp only [List.length_cons, List.length_append]; omega), ih]

lemma readsBack_record (last : δ) {es : List (String × List Char)} {a : α}
    (h : shape.Fills shape.start es last) (hfinish : shape.finish last = .ok a) :
    ReadsBack shape.record (printRecord es) a where
  opens := ⟨'\x7b', _, rfl, by decide, by decide⟩
  reads rest _ := by
    have hform : printRecord es ++ rest
        = '\x7b' :: (separated (es.map entryForm) ++ '\x7d' :: rest) := by
      have hprint : printRecord es = '\x7b' :: separated (es.map entryForm) ++ ['\x7d'] := rfl
      simp [hprint]
    have hpast : pastObject ('\x7d' :: rest) = rest := by
      rw [pastObject, skipBlanks_cons (by decide)]
      rfl
    have hentries : shape.entries shape.start true (separated (es.map entryForm) ++ '\x7d' :: rest)
        = .ok (last, '\x7d' :: rest) := by
      cases h with
      | done => rw [List.map_nil, separated, List.nil_append, entries, nextKey_close]
      | @entry _ next _ field form more hfield hempty hread hmore =>
          have hcloses := closes_separated entryForm more (.inr (.inr rfl)) rest
          have hmap : (more.map entryForm).flatMap (',' :: ·) = more.flatMap (',' :: entryForm ·) :=
            List.flatMap_map ..
          have hfirst : separated (((field.name, form) :: more).map entryForm) ++ '\x7d' :: rest
              = '"' :: (field.name.toList.flatMap escaped ++ '"' :: ':' ::
                (form ++ (more.flatMap (',' :: entryForm ·) ++ '\x7d' :: rest))) := by
            rw [List.map_cons, separated_cons, hmap]
            simp [entryForm, printText, printChars]
          rw [hfirst, entries_cons hfield hempty hread hcloses (nextKey_first _)
            (by simp only [List.length_cons, List.length_append]; omega),
            entries_more hmore]
    rw [hform, record, skipBlanks_cons (by decide)]
    simp only [hentries, bind, Except.bind, hfinish, hpast]
    rfl

end Shape

end Retrace.Json
