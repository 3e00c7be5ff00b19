import Retrace.Text.Hidden

/-!
Texts quoted for a reader.

A quoted text stands between double quotes.  The double quote and the backslash are written with a
backslash, the usual controls by their letter, every other hidden character by its code point, so
that the quoted form consists of visible characters only.
-/

namespace Retrace.Text

/-- The quoted form of one character. -/
def quoteChar (c : Char) : List Char :=
  match c with
  | '\x00' => ['\\', '0']
  | '\t' => ['\\', 't']
  | '\r' => ['\\', 'r']
  | '\n' => ['\\', 'n']
  | '"' => ['\\', '"']
  | '\\' => ['\\', '\\']
  | _ =>
    if isHidden c then ['\\', 'u', '{'] ++ Nat.toDigits 16 c.toNat ++ ['}'] else [c]

/-- The text between double quotes, with everything hidden made visible. -/
def quoted (s : String) : String :=
  String.ofList ('"' :: s.toList.flatMap quoteChar ++ ['"'])

end Retrace.Text
