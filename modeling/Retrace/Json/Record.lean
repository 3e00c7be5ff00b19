import Retrace.Json.Skip
import Retrace.Json.Value

/-!
Records.

A record is written as an object, whose keys are the names of its fields, or as a list of its
fields in order.  Reading fills a draft field by field.  Keys that name no field are passed over; a
field that is filled twice, and one that is neither filled nor has a default, are refused.  Such a
refusal is placed where the record ends if it ends there, and the text from there on is not read.

* `Field.of` makes a field from its place in the draft;
* `Shape.entries` reads the entries of an object, `Shape.inOrder` the fields of a list;
* `Shape.record` reads either.
-/

namespace Retrace.Json

/-- A field of a record that is read into drafts of type `δ`. -/
structure Field (δ : Type) where
  name : String
  filled : δ → Bool
  read : δ → Reader δ

/-- The field that a reader fills. -/
def Field.of {δ β : Type} (name : String) (get : δ → Option β) (set : δ → β → δ)
    (value : Reader β) : Field δ where
  name := name
  filled d := (get d).isSome
  read d s := (value s).map fun (b, r) => (set d b, r)

/-- How a record of type `α` is read. -/
structure Shape (δ α : Type) where
  /-- The name of the record in messages. -/
  name : String
  start : δ
  fields : List (Field δ)
  /-- The finished record, or the name of the first field that is missing. -/
  finish : δ → Except String α

/-- The value of a field that has no default. -/
def required {β : Type} (name : String) : Option β → Except String β
  | some b => .ok b
  | none => .error name

/-- The text behind the closing bracket of an object, if that comes next. -/
def pastObject (s : List Char) : List Char :=
  match skipBlanks s with
  | '\x7d' :: r => r
  | r => r

/-- The text behind the closing bracket of a list, if that comes next; a comma is taken too. -/
def pastList (s : List Char) : List Char :=
  match skipBlanks s with
  | ']' :: r => r
  | ',' :: r => skipBlanks r
  | r => r

/-- Whether another entry of an object follows, and the text behind the quote of its key.  At the
end of the object the closing bracket comes next. -/
def nextKey (first : Bool) (s : List Char) : Except Failure (Bool × List Char) :=
  match skipBlanks s with
  | [] => .error (.on [] .objectCut)
  | '\x7d' :: r => .ok (false, '\x7d' :: r)
  | c :: r =>
    if first then
      if c = '"' then .ok (true, r) else .error (.on (c :: r) .keyNotText)
    else if c ≠ ',' then .error (.on (c :: r) .objectCommaExpected)
    else
      match skipBlanks r with
      | '"' :: t => .ok (true, t)
      | '\x7d' :: t => .error (.on ('\x7d' :: t) .trailingComma)
      | [] => .error (.on [] .valueCut)
      | t => .error (.on t .keyNotText)

namespace Shape

variable {δ α : Type}

/-- Reads one entry behind the quote of its key. -/
def entry (shape : Shape δ α) (d : δ) (s : List Char) : Except Failure (δ × List Char) :=
  match stringBody [] s with
  | .error f => .error f
  | .ok (key, r) =>
    match shape.fields.find? (·.name == String.ofList key) with
    | none => do
      let r ← colon r
      let r ← skipValue r
      return (d, r)
    | some field =>
      if field.filled d then .error (.after (pastObject r) (.repeatedField field.name))
      else do
        let r ← colon r
        field.read d r

/-- Reads the entries of an object up to its closing bracket, which comes next. -/
def entries (shape : Shape δ α) (d : δ) (first : Bool) (s : List Char) :
    Except Failure (δ × List Char) :=
  match nextKey first s with
  | .error f => .error f
  | .ok (false, r) => .ok (d, r)
  | .ok (true, r) =>
    match shape.entry d r with
    | .error f => .error f
    | .ok (d, t) =>
      if t.length < s.length then entries shape d false t else .error (.after t .stalled)
termination_by s.length

/-- Reads the given fields from a list, as far as it goes. -/
def inOrder (fields : List (Field δ)) (d : δ) (first : Bool) (s : List Char) :
    Except Failure (δ × List Char) :=
  match fields with
  | [] => .ok (d, s)
  | field :: more =>
    match nextElement first s with
    | .error f => .error f
    | .ok (false, r) => .ok (d, r)
    | .ok (true, r) =>
      match field.read d r with
      | .error f => .error f
      | .ok (d, r) => inOrder more d false r

/-- The end of a record that is written as a list. -/
def closeList (s : List Char) : Except Failure (List Char) :=
  match skipBlanks s with
  | ']' :: r => .ok r
  | ',' :: r =>
    match skipBlanks r with
    | ']' :: t => .error (.on (']' :: t) .trailingComma)
    | t => .error (.on t .trailingCharacters)
  | [] => .error (.on [] .listCut)
  | r => .error (.on r .trailingCharacters)

/-- The place of a field among the fields. -/
def placeOf (shape : Shape δ α) (name : String) : Nat :=
  shape.fields.findIdx (·.name == name)

/-- Reads a record. -/
def record (shape : Shape δ α) : Reader α := fun s =>
  match skipBlanks s with
  | '{' :: r => do
    let (d, r) ← shape.entries shape.start true r
    match shape.finish d with
    | .error name => throw (.after (pastObject r) (.missingField name))
    | .ok a => return (a, pastObject r)
  | '[' :: r => do
    let (d, r) ← inOrder shape.fields shape.start true r
    match shape.finish d with
    | .error name =>
      throw (.after (pastList r)
        (.tooShort (shape.placeOf name) ("struct " ++ shape.name) shape.fields.length))
    | .ok a => do
      let r ← closeList r
      return (a, r)
  | r => .error (mismatch ("struct " ++ shape.name) r)

end Shape

end Retrace.Json
