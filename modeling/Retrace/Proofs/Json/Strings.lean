import Mathlib.Tactic.Lemma
import Retrace.Json.Printer
import Retrace.Json.Text

/-!
Written strings are read back.

A written character is either itself or an escape, and a written string holds no quote that is not
escaped, so reading stops exactly at the closing one.

* `stringBody_escaped`: the written form of a character is read as that character;
* `stringBody_printChars`: the written form of a string is read as that string.
-/

namespace Retrace.Json

/-- A hexadecimal digit has the value that it was written for. -/
lemma hexValue_hexDigit {n : Nat} (hn : n < 16) : hexValue (hexDigit n) = some n := by
  revert n
  decide

/-- The escape of a control character by its number. -/
lemma unicodeEscape_control {c : Char} (hc : c.toNat < 0x20) (s : List Char) :
    unicodeEscape ('0' :: '0' :: hexDigit (c.toNat / 16) :: hexDigit (c.toNat % 16) :: s)
      = .ok (c, s) := by
  have hzero : hexValue '0' = some 0 := rfl
  have hfour : hexFour ('0' :: '0' :: hexDigit (c.toNat / 16) :: hexDigit (c.toNat % 16) :: s)
      = .ok (c.toNat, s) := by
    have hvalue : ((0 * 16 + 0) * 16 + c.toNat / 16) * 16 + c.toNat % 16 = c.toNat := by omega
    simp [hexFour, hexValue4, hzero, hexValue_hexDigit (show c.toNat / 16 < 16 by omega),
      hexValue_hexDigit (show c.toNat % 16 < 16 by omega)]
    omega
  have hlow : isLowSurrogate c.toNat = false := by simp [isLowSurrogate]; omega
  have hhigh : isHighSurrogate c.toNat = false := by simp [isHighSurrogate]; omega
  rw [unicodeEscape, hfour]
  simp [hlow, hhigh]

/-- A character is written by a letter behind a backslash, by its number or as itself. -/
lemma escaped_cases (c : Char) :
    (∃ e, escaped c = ['\\', e] ∧ e ≠ 'u' ∧ escapeLetter e = some c)
      ∨ (c.toNat < 0x20 ∧ escaped c
        = ['\\', 'u', '0', '0', hexDigit (c.toNat / 16), hexDigit (c.toNat % 16)])
      ∨ (escaped c = [c] ∧ c ≠ '"' ∧ c ≠ '\\' ∧ ¬ c.toNat < 0x20) := by
  by_cases hletter : c ∈ ['"', '\\', '\x08', '\x0c', '\n', '\r', '\t']
  · simp only [List.mem_cons, List.not_mem_nil, or_false] at hletter
    rcases hletter with rfl | rfl | rfl | rfl | rfl | rfl | rfl <;>
      exact .inl ⟨_, rfl, by decide, rfl⟩
  · simp only [List.mem_cons, List.not_mem_nil, or_false, not_or] at hletter
    by_cases hcontrol : c.toNat < 0x20
    · exact .inr (.inl ⟨hcontrol, by simp [escaped, hletter, hcontrol]⟩)
    · have hself : escaped c = [c] := by simp [escaped, hletter, hcontrol]
      exact .inr (.inr ⟨hself, hletter.1, hletter.2.1, hcontrol⟩)

/-- **The written form of a character** is read as that character. -/
lemma stringBody_escaped (c : Char) (read s : List Char) :
    stringBody read (escaped c ++ s) = stringBody (c :: read) s := by
  rcases escaped_cases c with ⟨e, hwritten, he, hletter⟩ | ⟨hcontrol, hwritten⟩ |
    ⟨hwritten, hquote, hbackslash, hcontrol⟩
  · rw [hwritten, List.cons_append, List.cons_append, List.nil_append, stringBody, hletter]
    exact he
  · rw [hwritten]
    simp only [List.cons_append, List.nil_append]
    rw [stringBody]
    split
    · case _ f hf => simp [unicodeEscape_control hcontrol] at hf
    · case _ d t hd =>
        rw [unicodeEscape_control hcontrol] at hd
        cases hd
        rfl
  · rw [hwritten, List.cons_append, List.nil_append, stringBody, if_neg hcontrol]
    · exact hquote
    · exact fun h _ => hbackslash h
    · exact fun _ h _ => hbackslash h
    · exact fun _ _ h _ => hbackslash h

/-- **The written form of a string** is read as that string, up to the closing quote. -/
lemma stringBody_printChars (cs read s : List Char) :
    stringBody read (cs.flatMap escaped ++ '"' :: s) = .ok (read.reverse ++ cs, s) := by
  induction cs generalizing read with
  | nil => simp [stringBody]
  | cons c cs ih =>
      rw [List.flatMap_cons, List.append_assoc, stringBody_escaped, ih]
      simp

end Retrace.Json
