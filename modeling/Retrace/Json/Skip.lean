import Retrace.Json.Numeral
import Retrace.Json.Text

/-!
Values that are only checked.

The value of an unknown field is passed over.  Its form is checked, however deep it nests: the
brackets that are still open are kept in a list, innermost first, and each step takes one scalar or
one opening bracket off the text.
-/

namespace Retrace.Json

/-- The two kinds of brackets. -/
inductive Bracket where
  | list
  | object
  deriving DecidableEq

namespace Bracket

/-- The closing character. -/
def close : Bracket → Char
  | .list => ']'
  | .object => '\x7d'

/-- What is wrong when the text ends inside. -/
def cut : Bracket → Reason
  | .list => .listCut
  | .object => .objectCut

/-- What is wrong when neither a comma nor the closing bracket follows a value. -/
def commaExpected : Bracket → Reason
  | .list => .listCommaExpected
  | .object => .objectCommaExpected

end Bracket

/-- Passes over the key and the colon of an object's next entry. -/
def skipKey (s : List Char) : Except Failure (List Char) :=
  match skipBlanks s with
  | '"' :: r =>
    match skipString r with
    | .ok r => colon r
    | .error f => .error f
  | [] => .error (.on [] .objectCut)
  | r => .error (.on r .keyNotText)

/-- Passes over what stands before a value inside the bracket. -/
def skipToValue (b : Bracket) (s : List Char) : Except Failure (List Char) :=
  match b with
  | .list => .ok s
  | .object => skipKey s

/-- Closes brackets behind a value, or behind an opening bracket if `fresh`, up to the place where
the next value is due.  No bracket is left open when the outermost value has ended. -/
def settle (fresh : Bool) (openBrackets : List Bracket) (s : List Char) :
    Except Failure (List Bracket × List Char) :=
  match openBrackets with
  | [] => .ok ([], s)
  | b :: outer =>
    match skipBlanks s with
    | [] => .error (.on [] b.cut)
    | c :: r =>
      if c = ',' && !fresh then (skipToValue b r).map (b :: outer, ·)
      else if c = b.close then settle false outer r
      else if fresh then (skipToValue b (c :: r)).map (b :: outer, ·)
      else .error (.on (c :: r) b.commaExpected)

/-- Takes one scalar or one opening bracket off the text. -/
def skipStep (openBrackets : List Bracket) (s : List Char) :
    Except Failure (List Bracket × List Char) :=
  let scalar (r : Except Failure (List Char)) :=
    match r with
    | .ok r => settle false openBrackets r
    | .error f => .error f
  let fixed (w : String) (r : List Char) := scalar ((word w.toList r).map (·.2))
  match skipBlanks s with
  | [] => .error (.on [] .valueCut)
  | 'n' :: r => fixed "ull" r
  | 't' :: r => fixed "rue" r
  | 'f' :: r => fixed "alse" r
  | '"' :: r => scalar (skipString r)
  | '[' :: r => settle true (.list :: openBrackets) r
  | '{' :: r => settle true (.object :: openBrackets) r
  | c :: r =>
    if startsNumber c then scalar (skipNumeral (c :: r)) else .error (.on (c :: r) .valueExpected)

/-- Passes over values until no bracket is open. -/
def skipValues (openBrackets : List Bracket) (s : List Char) : Except Failure (List Char) :=
  match skipStep openBrackets s with
  | .error f => .error f
  | .ok ([], r) => .ok r
  | .ok (b :: outer, r) =>
    if r.length < s.length then skipValues (b :: outer) r else .error (.after r .stalled)
termination_by s.length

/-- Passes over one value, and gives back the text behind it. -/
def skipValue (s : List Char) : Except Failure (List Char) := skipValues [] s

end Retrace.Json
