/-!
The written form of JSON values: no blanks, fields and elements separated by commas.

In a string only what cannot stand there by itself is escaped: the quote, the backslash and the
controls, five of them by their letter and the others by their number.
-/

namespace Retrace.Json

/-- A hexadecimal digit, in lower case. -/
def hexDigit (n : Nat) : Char :=
  if n < 10 then Char.ofNat ('0'.toNat + n) else Char.ofNat ('a'.toNat + (n - 10))

/-- The form of one character inside a string. -/
def escaped (c : Char) : List Char :=
  if c = '"' then ['\\', '"']
  else if c = '\\' then ['\\', '\\']
  else if c = '\x08' then ['\\', 'b']
  else if c = '\x0c' then ['\\', 'f']
  else if c = '\n' then ['\\', 'n']
  else if c = '\r' then ['\\', 'r']
  else if c = '\t' then ['\\', 't']
  else if c.toNat < 0x20 then
    ['\\', 'u', '0', '0', hexDigit (c.toNat / 16), hexDigit (c.toNat % 16)]
  else [c]

/-- A list of characters as a string. -/
def printChars (cs : List Char) : List Char :=
  '"' :: cs.flatMap escaped ++ ['"']

/-- A text as a string. -/
def printText (s : String) : List Char := printChars s.toList

/-- A natural number. -/
def printNat (n : Nat) : List Char := Nat.toDigits 10 n

/-- An integer, with its sign if it is negative. -/
def printInt (n : Int) : List Char :=
  if n < 0 then '-' :: printNat n.natAbs else printNat n.natAbs

/-- A truth value. -/
def printBool : Bool → List Char
  | true => ['t', 'r', 'u', 'e']
  | false => ['f', 'a', 'l', 's', 'e']

/-- A value, or `null`. -/
def printOption {α : Type} (print : α → List Char) : Option α → List Char
  | some a => print a
  | none => ['n', 'u', 'l', 'l']

/-- Written values with commas between them. -/
def separated : List (List Char) → List Char
  | [] => []
  | [s] => s
  | s :: more => s ++ ',' :: separated more

/-- A list of values. -/
def printList {α : Type} (print : α → List Char) (xs : List α) : List Char :=
  '[' :: separated (xs.map print) ++ [']']

/-- A record with its fields in the given order. -/
def printRecord (fields : List (String × List Char)) : List Char :=
  '\x7b' :: separated (fields.map fun (name, value) => printText name ++ ':' :: value) ++ ['\x7d']

end Retrace.Json
