import Retrace.Decimal.Rendering
import Retrace.Text.Quoted

/-!
What can be wrong with a JSON text, and where.

A `Failure` keeps its `Reason` and the part of the text that was still unread, so its place is found
only when the whole text is at hand: `Failure.index` counts the bytes before it and `Position.at`
turns a byte index into a line and a column.  `Failure.after` points behind what was read,
`Failure.on` behind the first byte of what was not.
-/

namespace Retrace.Json

/-- A value of the wrong type, as far as a message names it. -/
inductive Found where
  | null
  | boolean (b : Bool)
  | integer (n : Int)
  | real (x : Float)
  | text (s : String)
  | list
  | object
  deriving DecidableEq

/-- How a message names the value. -/
def Found.describe : Found → String
  | .null => "null"
  | .boolean b => s!"boolean `{b}`"
  | .integer n => s!"integer `{n}`"
  | .real x => "floating point `" ++ Decimal.marked.render x ++ "`"
  | .text s => "string " ++ Text.quoted s
  | .list => "sequence"
  | .object => "map"

/-- What can be wrong at one place of a text. -/
inductive Reason where
  /-- The text ends where a value is due. -/
  | valueCut
  /-- The text ends inside a list. -/
  | listCut
  /-- The text ends inside an object. -/
  | objectCut
  /-- The text ends inside a string. -/
  | stringCut
  | valueExpected
  | wordExpected
  | colonExpected
  | listCommaExpected
  | objectCommaExpected
  | trailingComma
  | trailingCharacters
  | keyNotText
  | controlCharacter
  | badEscape
  /-- A surrogate escape that is not the first half of a pair. -/
  | loneSurrogate
  /-- The first half of a surrogate pair without a second escape. -/
  | halfPair
  | badNumber
  | numberTooLarge
  | wrongType (found : Found) (wanted : String)
  | outOfRange (n : Int) (wanted : String)
  | missingField (name : String)
  | repeatedField (name : String)
  /-- A record written as a list ends before the field at this place. -/
  | tooShort (place : Nat) (wanted : String) (size : Nat)
  | unknownTag (tag : String) (known : List String)
  /-- A reader took nothing off the text where it has to take something. -/
  | stalled
  deriving DecidableEq

/-- The alternatives of a choice, as a message lists them. -/
def alternatives : List String → String
  | [] => "there are no variants"
  | [a] => s!"expected `{a}`"
  | [a, b] => s!"expected `{a}` or `{b}`"
  | more => "expected one of " ++ String.intercalate ", " (more.map fun a => s!"`{a}`")

/-- The wording of a reason. -/
def Reason.message : Reason → String
  | .valueCut => "EOF while parsing a value"
  | .listCut => "EOF while parsing a list"
  | .objectCut => "EOF while parsing an object"
  | .stringCut => "EOF while parsing a string"
  | .valueExpected => "expected value"
  | .wordExpected => "expected ident"
  | .colonExpected => "expected `:`"
  | .listCommaExpected => "expected `,` or `]`"
  | .objectCommaExpected => "expected `,` or `\x7d`"
  | .trailingComma => "trailing comma"
  | .trailingCharacters => "trailing characters"
  | .keyNotText => "key must be a string"
  | .controlCharacter => "control character (\\u0000-\\u001F) found while parsing a string"
  | .badEscape => "invalid escape"
  | .loneSurrogate => "lone leading surrogate in hex escape"
  | .halfPair => "unexpected end of hex escape"
  | .badNumber => "invalid number"
  | .numberTooLarge => "number out of range"
  | .wrongType found wanted => "invalid type: " ++ found.describe ++ ", expected " ++ wanted
  | .outOfRange n wanted => s!"invalid value: integer `{n}`, expected {wanted}"
  | .missingField name => s!"missing field `{name}`"
  | .repeatedField name => s!"duplicate field `{name}`"
  | .tooShort place wanted size =>
    s!"invalid length {place}, expected {wanted} with {size} elements"
  | .unknownTag tag known => s!"unknown variant `{tag}`, " ++ alternatives known
  | .stalled => "nothing read"

/-- A reason together with the text that was unread when it arose. -/
structure Failure where
  reason : Reason
  rest : List Char
  /-- Bytes of `rest` that count as read, as far as there are any. -/
  past : Nat
  deriving DecidableEq

namespace Failure

/-- A failure behind what was read. -/
def after (rest : List Char) (reason : Reason) : Failure := ⟨reason, rest, 0⟩

/-- A failure at the byte that comes next, or at the end of the text. -/
def on (rest : List Char) (reason : Reason) : Failure := ⟨reason, rest, 1⟩

end Failure

/-- The number of bytes of the text in UTF-8. -/
def byteCount (s : List Char) : Nat :=
  s.foldr (fun c n => c.utf8Size + n) 0

/-- The number of bytes of the whole text up to the place of the failure. -/
def Failure.index (text : List Char) (f : Failure) : Nat :=
  min (byteCount text - byteCount f.rest + f.past) (byteCount text)

/-- A place in a text: the line counts from one, the column counts the bytes of the line before
the place. -/
structure Position where
  line : Nat
  column : Nat
  deriving DecidableEq, Repr

/-- The position of a byte index. -/
def Position.at (text : String) (index : Nat) : Position :=
  let before := text.toUTF8.toList.take index
  ⟨before.count 10 + 1, (before.reverse.takeWhile (· ≠ 10)).length⟩

/-- A text that is not what it should be: why, and where. -/
structure Malformed where
  reason : Reason
  position : Position
  deriving DecidableEq

/-- The wording of a malformed text. -/
def Malformed.message (m : Malformed) : String :=
  m.reason.message ++ s!" at line {m.position.line} column {m.position.column}"

/-- The failure of a reader, placed in the whole text. -/
def Failure.place (text : String) (f : Failure) : Malformed :=
  ⟨f.reason, Position.at text (f.index text.toList)⟩

end Retrace.Json
