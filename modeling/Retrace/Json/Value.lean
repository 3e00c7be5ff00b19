import Retrace.Json.Numeral
import Retrace.Json.Text

/-!
Readers of simple values.

Each reader says what it wants; a value of another type is read as far as its kind needs and then
reported by `mismatch`.  `list` reads a list of values of one type, `choice` one of several tags.
-/

namespace Retrace.Json

/-- The failure of a text that starts with a value of another type. -/
def mismatch (wanted : String) (s : List Char) : Failure :=
  let reported (found : Found) (r : Except Failure (Unit × List Char)) : Failure :=
    match r with
    | .ok (_, r) => .after r (.wrongType found wanted)
    | .error f => f
  match s with
  | 'n' :: r => reported .null (word "ull".toList r)
  | 't' :: r => reported (.boolean true) (word "rue".toList r)
  | 'f' :: r => reported (.boolean false) (word "alse".toList r)
  | '"' :: r =>
    match stringBody [] r with
    | .ok (t, r) => .after r (.wrongType (.text (String.ofList t)) wanted)
    | .error f => f
  | '[' :: _ => .after s (.wrongType .list wanted)
  | '{' :: _ => .after s (.wrongType .object wanted)
  | c :: _ =>
    if startsNumber c then
      match numeral s with
      | .ok (.whole n, r) => .after r (.wrongType (.integer n) wanted)
      | .ok (.real x, r) => .after r (.wrongType (.real x) wanted)
      | .error f => f
    else .on s .valueExpected
  | [] => .on [] .valueCut

/-- An integer from `low` to `high`. -/
def integer (low high : Int) (wanted : String) : Reader Int := fun s =>
  match skipBlanks s with
  | [] => .error (.on [] .valueCut)
  | c :: r =>
    if startsNumber c then
      match numeral (c :: r) with
      | .error f => .error f
      | .ok (.real x, t) => .error (.after t (.wrongType (.real x) wanted))
      | .ok (.whole n, t) =>
        if low ≤ n ∧ n ≤ high then .ok (n, t) else .error (.after t (.outOfRange n wanted))
    else .error (mismatch wanted (c :: r))

/-- A natural number that fits a word of the machine, as steps are counted. -/
def count : Reader Nat := fun s =>
  (integer 0 (USize.size - 1) "usize" s).map fun (n, r) => (n.toNat, r)

/-- A natural number of 32 bits. -/
def natural32 : Reader UInt32 := fun s =>
  (integer 0 0xffffffff "u32" s).map fun (n, r) => (UInt32.ofNat n.toNat, r)

/-- An integer of 64 bits. -/
def integer64 : Reader Int64 := fun s =>
  (integer Int64.minValue.toInt Int64.maxValue.toInt "i64" s).map fun (n, r) => (Int64.ofInt n, r)

/-- `null`, or a value. -/
def optional {α : Type} (value : Reader α) : Reader (Option α) := fun s =>
  match skipBlanks s with
  | 'n' :: r => (word "ull".toList r).map fun (_, r) => (none, r)
  | r => (value r).map fun (a, r) => (some a, r)

/-- A truth value. -/
def boolean : Reader Bool := fun s =>
  match skipBlanks s with
  | 't' :: r => (word "rue".toList r).map fun (_, r) => (true, r)
  | 'f' :: r => (word "alse".toList r).map fun (_, r) => (false, r)
  | r => .error (mismatch "a boolean" r)

/-- A string. -/
def text : Reader String := fun s =>
  match skipBlanks s with
  | '"' :: r => (stringBody [] r).map fun (t, r) => (String.ofList t, r)
  | r => .error (mismatch "a string" r)

/-! ### Lists -/

/-- Whether another element of a list follows, and the text from there on.  At the end of the list
the closing bracket comes next. -/
def nextElement (first : Bool) (s : List Char) : Except Failure (Bool × List Char) :=
  match skipBlanks s with
  | [] => .error (.on [] .listCut)
  | ']' :: r => .ok (false, ']' :: r)
  | c :: r =>
    if first then .ok (true, c :: r)
    else if c ≠ ',' then .error (.on (c :: r) .listCommaExpected)
    else
      match skipBlanks r with
      | [] => .error (.on [] .valueCut)
      | ']' :: t => .error (.on (']' :: t) .trailingComma)
      | t => .ok (true, t)

/-- Reads elements up to the closing bracket and takes that off as well; `read` holds the elements
before, last first. -/
def elements {α : Type} (value : Reader α) (read : List α) (first : Bool) (s : List Char) :
    Except Failure (List α × List Char) :=
  match nextElement first s with
  | .error f => .error f
  | .ok (false, r) => .ok (read.reverse, r.drop 1)
  | .ok (true, r) =>
    match value r with
    | .error f => .error f
    | .ok (a, t) =>
      if t.length < s.length then elements value (a :: read) false t
      else .error (.after t .stalled)
termination_by s.length

/-- A list of values. -/
def list {α : Type} (value : Reader α) : Reader (List α) := fun s =>
  match skipBlanks s with
  | '[' :: r => elements value [] true r
  | r => .error (mismatch "a sequence" r)

/-! ### Choices -/

/-- The tag of a choice, with the value it stands for. -/
def tag {α : Type} (known : List (String × α)) (r : List Char) :
    Except Failure (α × List Char) :=
  match stringBody [] r with
  | .error f => .error f
  | .ok (t, r) =>
    match known.lookup (String.ofList t) with
    | some a => .ok (a, r)
    | none => .error (.after r (.unknownTag (String.ofList t) (known.map (·.1))))

/-- Nothing but `null`. -/
def nothing : Reader Unit := fun s =>
  match skipBlanks s with
  | 'n' :: r => word "ull".toList r
  | r => .error (mismatch "unit" r)

/-- One of the known tags: as a string, or as the one key of an object with the value `null`. -/
def choice {α : Type} (known : List (String × α)) : Reader α := fun s =>
  match skipBlanks s with
  | [] => .error (.on [] .valueCut)
  | '"' :: r => tag known r
  | '{' :: r =>
    match skipBlanks r with
    | [] => .error (.on [] .objectCut)
    | '\x7d' :: t => .error (.on ('\x7d' :: t) .valueExpected)
    | '"' :: t => do
      let (a, t) ← tag known t
      let t ← colon t
      let (_, t) ← nothing t
      match skipBlanks t with
      | '\x7d' :: t => return (a, t)
      | [] => throw (.after [] .objectCut)
      | t => throw (.after t .valueExpected)
    | t => .error (.on t .keyNotText)
  | r => .error (.on r .valueExpected)

end Retrace.Json
