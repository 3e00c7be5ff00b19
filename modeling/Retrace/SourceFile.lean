import Retrace.Json.Record

/-!
The analysed source files.

A file is shown line by line.  `splitLines` cuts a text at its line feeds: a carriage return just
before a line feed belongs to the line end, any other stays, and a text that ends in a line feed has
no further line.
-/

namespace Retrace

open Json

/-- The lines of a text; `line` holds the current line so far, last character first. -/
def linesFrom (line : List Char) : List Char → List (List Char)
  | [] => if line = [] then [] else [line.reverse]
  | '\n' :: rest =>
    (match line with
      | '\r' :: before => before.reverse
      | all => all.reverse) :: linesFrom [] rest
  | c :: rest => linesFrom (c :: line) rest

/-- The lines of a text. -/
def splitLines (text : List Char) : List (List Char) := linesFrom [] text

/-- One analysed source file. -/
structure SourceFile where
  name : String
  content : String
  deriving DecidableEq, Repr

/-- The lines of the file with their numbers, from one. -/
def SourceFile.numberedLines (f : SourceFile) : List (Nat × String) :=
  (splitLines f.content.toList).zipIdx 1 |>.map fun (line, n) => (n, String.ofList line)

/-- The fields of a source file as far as they have been read. -/
structure SourceFile.Draft where
  name : Option String := none
  content : Option String := none

/-- How a source file is read. -/
def SourceFile.shape : Shape SourceFile.Draft SourceFile where
  name := "SourceFile"
  start := {}
  fields := [
    .of "name" (·.name) (fun d v => { d with name := some v }) text,
    .of "content" (·.content) (fun d v => { d with content := some v }) text]
  finish d := do
    let name ← required "name" d.name
    let content ← required "content" d.content
    return { name, content }

end Retrace
