import Mathlib.Tactic.Lemma
import Retrace.Json.Printer
import Retrace.Json.Value

/-!
Written numbers are read back.

A written number is a run of digits, perhaps behind a sign; whatever may follow a value neither
continues the digits nor turns them into a real number.

* `Closes`: what may follow a value inside a written text, or at its end;
* `gather_append`: a run of digits is taken as a whole if its value stays below the bound;
* `head_printNat`: no number but zero starts with a zero, so none is taken for a malformed one;
* `numeral_printInt`: a written integer of 64 bits is read as that integer.
-/

namespace Retrace.Json

/-- What may follow a value: nothing, a comma or a closing bracket. -/
def Closes (rest : List Char) : Prop :=
  ∀ c, rest.head? = some c → c = ',' ∨ c = ']' ∨ c = '\x7d'

lemma closes_nil : Closes [] := by
  intro c hc
  cases hc

lemma closes_cons {c : Char} (h : c = ',' ∨ c = ']' ∨ c = '\x7d') (r : List Char) :
    Closes (c :: r) := by
  intro b hb
  obtain rfl := Option.some.inj hb
  exact h

lemma Closes.startsWithDigit {rest : List Char} (h : Closes rest) :
    startsWithDigit rest = false := by
  cases rest with
  | nil => rfl
  | cons c r => rcases h c rfl with rfl | rfl | rfl <;> rfl

/-! ### Digits -/

/-- More digits never make a number smaller. -/
lemma le_ofDigitChars (ds : List Char) (n : Nat) : n ≤ Nat.ofDigitChars 10 ds n := by
  have hpow : 0 < 10 ^ ds.length := Nat.pow_pos (by decide)
  calc n ≤ 10 ^ ds.length * n := Nat.le_mul_of_pos_left n hpow
    _ ≤ 10 ^ ds.length * n + Nat.ofDigitChars 10 ds 0 := Nat.le_add_right _ _
    _ = Nat.ofDigitChars 10 ds n := Nat.ofDigitChars_eq_ofDigitChars_zero.symm

lemma gather_append {bound : Nat} {ds rest : List Char} (hds : ∀ c ∈ ds, c.isDigit)
    (hrest : startsWithDigit rest = false) {n : Nat} (hn : Nat.ofDigitChars 10 ds n < bound) :
    gather bound n (ds ++ rest) = (Nat.ofDigitChars 10 ds n, rest) := by
  induction ds generalizing n with
  | nil =>
      cases rest with
      | nil => rfl
      | cons c r =>
          have hc : c.isDigit = false := hrest
          simp [gather, hc]
  | cons c ds ih =>
      have hvalue : Nat.ofDigitChars 10 (c :: ds) n
          = Nat.ofDigitChars 10 ds (n * 10 + digitValue c) := by
        rw [Nat.ofDigitChars_cons, Nat.mul_comm, digitValue]
      have hlt : n * 10 + digitValue c < bound :=
        Nat.lt_of_le_of_lt (le_ofDigitChars ds _) (hvalue ▸ hn)
      have hc : c.isDigit = true := hds c (List.mem_cons_self ..)
      rw [List.cons_append, gather, hc, decide_eq_true hlt, Bool.and_self, if_pos rfl, hvalue]
      exact ih (fun x hx => hds x (List.mem_cons_of_mem c hx)) (hvalue ▸ hn)

lemma isDigit_of_mem_printNat {n : Nat} {c : Char} (hc : c ∈ printNat n) : c.isDigit :=
  Nat.isDigit_of_mem_toDigits (by decide) (by decide) hc

/-- A written number starts with a digit, and only zero starts with a zero. -/
lemma head_printNat (n : Nat) : ∃ c ds, printNat n = c :: ds ∧ (c = '0' → ds = []) := by
  induction n using Nat.strongRecOn with
  | ind n ih =>
      by_cases hn : n < 10
      · exact ⟨n.digitChar, [], Nat.toDigits_of_lt_base hn, fun _ => rfl⟩
      · obtain ⟨c, ds, hds, hzero⟩ := ih (n / 10) (by omega)
        have hne : c ≠ '0' := by
          intro hc
          -- a first digit zero would stand alone, and ten fits into the number
          have hval : Nat.ofDigitChars 10 (printNat (n / 10)) 0 = n / 10 :=
            Nat.ofDigitChars_ten_toDigits
          rw [hds, hc, hzero hc] at hval
          have : n / 10 = 0 := hval.symm
          omega
        refine ⟨c, ds ++ [(n % 10).digitChar], ?_, fun hc => absurd hc hne⟩
        rw [printNat, Nat.toDigits_of_base_le (by decide) (by omega), ← printNat, hds]
        rfl

/-! ### Numbers -/

lemma unsigned_printNat (negative : Bool) {n : Nat} (hn : n < UInt64.size) {rest : List Char}
    (hrest : Closes rest) :
    unsigned negative (printNat n ++ rest)
      = if !negative then .ok (.whole n, rest)
        else if n = 0 ∨ lowestMagnitude < n then .ok (.real (-n.toUInt64.toFloat), rest)
        else .ok (.whole (-n), rest) := by
  obtain ⟨c, ds, hds, hzero⟩ := head_printNat n
  have hdigit : c.isDigit = true := isDigit_of_mem_printNat (hds ▸ List.mem_cons_self ..)
  have hnozero : (c = '0' && startsWithDigit (ds ++ rest)) = false := by
    by_cases hc : c = '0'
    · rw [hzero hc, List.nil_append, hrest.startsWithDigit, Bool.and_false]
    · simp [hc]
  have hgather : gather UInt64.size 0 (printNat n ++ rest) = (n, rest) := by
    have hval : Nat.ofDigitChars 10 (printNat n) 0 = n := Nat.ofDigitChars_ten_toDigits
    have := gather_append (n := 0) (fun c => isDigit_of_mem_printNat) hrest.startsWithDigit
      (hval.symm ▸ hn)
    rwa [hval] at this
  rw [hds, List.cons_append] at hgather ⊢
  rw [unsigned, hdigit, hnozero, hgather]
  -- nothing that may follow a value continues the number
  cases rest with
  | nil => rfl
  | cons d r => rcases hrest d rfl with rfl | rfl | rfl <;> rfl

lemma numeral_printInt {n : Int} (hlow : Int64.minValue.toInt ≤ n) (hhigh : n < UInt64.size)
    {rest : List Char} (hrest : Closes rest) :
    numeral (printInt n ++ rest) = .ok (.whole n, rest) := by
  have hmin : Int64.minValue.toInt = -(lowestMagnitude : Int) := by decide
  have hsize : lowestMagnitude < UInt64.size := by decide
  rw [hmin] at hlow
  by_cases hneg : n < 0
  · have hvalue : ¬ (n.natAbs = 0 ∨ lowestMagnitude < n.natAbs) := by omega
    have habs : -(n.natAbs : Int) = n := by omega
    rw [printInt, if_pos hneg, List.cons_append, numeral, unsigned_printNat true (by omega) hrest,
      Bool.not_true, if_neg Bool.false_ne_true, if_neg hvalue, habs]
  · have habs : (n.natAbs : Int) = n := by omega
    obtain ⟨c, ds, hds, -⟩ := head_printNat n.natAbs
    have hdigit : c.isDigit = true := isDigit_of_mem_printNat (hds ▸ List.mem_cons_self ..)
    have hsign : c ≠ '-' := by
      rintro rfl
      cases hdigit
    have hunsigned :
        numeral (printNat n.natAbs ++ rest) = unsigned false (printNat n.natAbs ++ rest) := by
      rw [hds, List.cons_append, numeral]
      intro r hr
      exact hsign (List.cons.inj hr).1
    rw [printInt, if_neg hneg, hunsigned, unsigned_printNat false (by omega) hrest, Bool.not_false,
      if_pos rfl, habs]

end Retrace.Json
