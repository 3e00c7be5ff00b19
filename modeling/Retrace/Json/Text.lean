import Retrace.Json.Reader

/-!
JSON strings.

Behind the opening quote a string runs up to the next quote that no backslash stands before.
`stringBody` reads it, with every escape replaced by its character; `skipString` only checks its
form.  An escape `\u` takes four bytes whatever they are; two escapes may name the two halves of
one character.

* `length_hexFour`, `length_unicodeEscape`: an escape is taken off the text, so that reading a
  string comes to an end.
-/

namespace Retrace.Json

/-! ### Escapes -/

/-- The character that a letter behind a backslash stands for. -/
def escapeLetter : Char → Option Char
  | '"' => some '"'
  | '\\' => some '\\'
  | '/' => some '/'
  | 'b' => some '\x08'
  | 'f' => some '\x0c'
  | 'n' => some '\n'
  | 'r' => some '\r'
  | 't' => some '\t'
  | _ => none

/-- The value of a hexadecimal digit of either case. -/
def hexValue (c : Char) : Option Nat :=
  if c.isDigit then some (c.toNat - '0'.toNat)
  else if 'a' ≤ c ∧ c ≤ 'f' then some (c.toNat - 'a'.toNat + 10)
  else if 'A' ≤ c ∧ c ≤ 'F' then some (c.toNat - 'A'.toNat + 10)
  else none

/-- The value of four hexadecimal digits. -/
def hexValue4 (a b c d : Char) : Option Nat := do
  return (((← hexValue a) * 16 + (← hexValue b)) * 16 + (← hexValue c)) * 16 + (← hexValue d)

/-- The number behind `\u`. -/
def hexFour (s : List Char) : Except Failure (Nat × List Char) :=
  match s with
  | a :: b :: c :: d :: r =>
    match hexValue4 a b c d with
    | some n => .ok (n, r)
    | none => .error ⟨.badEscape, s, 4⟩
  | _ => if byteCount s < 4 then .error (.after [] .stringCut) else .error ⟨.badEscape, s, 4⟩

theorem length_hexFour {s r : List Char} {n : Nat} (h : hexFour s = .ok (n, r)) :
    r.length < s.length := by
  unfold hexFour at h
  split at h
  · split at h <;> simp at h
    simp [← h.2]; omega
  · split at h <;> simp at h

/-- A number of the upper half of the surrogates, the first half of a pair. -/
def isHighSurrogate (n : Nat) : Bool := 0xD800 ≤ n ∧ n ≤ 0xDBFF

/-- A number of the lower half of the surrogates, the second half of a pair. -/
def isLowSurrogate (n : Nat) : Bool := 0xDC00 ≤ n ∧ n ≤ 0xDFFF

/-- The character named by the escapes behind a `\u`: one number, or a pair of surrogates. -/
def unicodeEscape (s : List Char) : Except Failure (Char × List Char) :=
  match hexFour s with
  | .error f => .error f
  | .ok (n, r) =>
    if isLowSurrogate n then .error (.after r .loneSurrogate)
    else if isHighSurrogate n then
      match r with
      | '\\' :: 'u' :: r =>
        match hexFour r with
        | .error f => .error f
        | .ok (m, r) =>
          if isLowSurrogate m then
            .ok (Char.ofNat (0x10000 + (n - 0xD800) * 0x400 + (m - 0xDC00)), r)
          else .error (.after r .loneSurrogate)
      | ['\\'] => .error (.after [] .stringCut)
      | '\\' :: r => .error (.on r .halfPair)
      | [] => .error (.after [] .stringCut)
      | r => .error (.on r .halfPair)
    else .ok (Char.ofNat n, r)

theorem length_unicodeEscape {s r : List Char} {c : Char} (h : unicodeEscape s = .ok (c, r)) :
    r.length < s.length := by
  unfold unicodeEscape at h
  split at h
  · simp at h
  · rename_i hn
    have := length_hexFour hn
    repeat' split at h
    all_goals simp at h
    · rename_i hm _
      have := length_hexFour hm
      simp_all; omega
    · simp_all

/-! ### Reading -/

/-- Reads a string behind its opening quote; `read` holds what came before, last first. -/
def stringBody (read s : List Char) : Except Failure (List Char × List Char) :=
  match s with
  | [] => .error (.after [] .stringCut)
  | '"' :: r => .ok (read.reverse, r)
  | ['\\'] => .error (.after [] .stringCut)
  | '\\' :: 'u' :: r =>
    match h : unicodeEscape r with
    | .error f => .error f
    | .ok (c, t) =>
      have := length_unicodeEscape h
      stringBody (c :: read) t
  | '\\' :: e :: r =>
    match escapeLetter e with
    | some c => stringBody (c :: read) r
    | none => .error (.on (e :: r) .badEscape)
  | c :: r =>
    if c.toNat < 0x20 then .error (.on (c :: r) .controlCharacter) else stringBody (c :: read) r
termination_by s.length
decreasing_by all_goals simp_all <;> omega

/-- Checks the form of a string behind its opening quote, and gives back the text behind it.
Surrogates need not be paired here. -/
def skipString (s : List Char) : Except Failure (List Char) :=
  match s with
  | [] => .error (.after [] .stringCut)
  | '"' :: r => .ok r
  | ['\\'] => .error (.after [] .stringCut)
  | '\\' :: 'u' :: r =>
    match h : hexFour r with
    | .error f => .error f
    | .ok (_, t) =>
      have := length_hexFour h
      skipString t
  | '\\' :: e :: r =>
    if (escapeLetter e).isSome then skipString r else .error (.on (e :: r) .badEscape)
  | c :: r => if c.toNat < 0x20 then .error (.after (c :: r) .controlCharacter) else skipString r
termination_by s.length
decreasing_by all_goals simp_all <;> omega

end Retrace.Json
