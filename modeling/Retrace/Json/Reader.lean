import Retrace.Json.Failure

/-!
Readers.

A `Reader` takes a value off the front of a text and gives back the rest, or fails at a place.
`document` runs a reader on a whole text and refuses anything but blanks behind the value.
-/

namespace Retrace.Json

/-- A reader of values of type `α`. -/
abbrev Reader (α : Type) := List Char → Except Failure (α × List Char)

/-- The blanks between the parts of a value. -/
def isBlank (c : Char) : Bool := c = ' ' || c = '\n' || c = '\t' || c = '\r'

/-- The text from its first character on that is no blank. -/
def skipBlanks (s : List Char) : List Char := s.dropWhile isBlank

/-- Blanks are skipped up to the first other character. -/
theorem skipBlanks_cons {c : Char} (h : isBlank c = false) (s : List Char) :
    skipBlanks (c :: s) = c :: s := by
  simp [skipBlanks, h]

/-- Reads the rest of a fixed word. -/
def word : List Char → Reader Unit
  | [], s => .ok ((), s)
  | _ :: _, [] => .error (.after [] .valueCut)
  | w :: more, c :: s => if c = w then word more s else .error (.on (c :: s) .wordExpected)

/-- A word is read off a text that starts with it. -/
theorem word_append (w s : List Char) : word w (w ++ s) = .ok ((), s) := by
  induction w with
  | nil => rfl
  | cons c w ih => simpa [word] using ih

/-- The colon between a key and its value. -/
def colon (s : List Char) : Except Failure (List Char) :=
  match skipBlanks s with
  | ':' :: r => .ok r
  | [] => .error (.on [] .objectCut)
  | r => .error (.on r .colonExpected)

/-- Reads a whole text: the value, then nothing but blanks. -/
def document {α : Type} (value : Reader α) (text : String) : Except Malformed α :=
  match value text.toList with
  | .error f => .error (f.place text)
  | .ok (a, r) =>
    match skipBlanks r with
    | [] => .ok a
    | r => .error ((Failure.on r .trailingCharacters).place text)

/-- A text that is a value and nothing else is read as that value. -/
theorem document_eq_ok {α : Type} {value : Reader α} {text : String} {a : α}
    (h : value text.toList = .ok (a, [])) : document value text = .ok a := by
  simp [document, h, skipBlanks]

end Retrace.Json
