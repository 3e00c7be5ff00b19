import Retrace.Page.Markup
import Retrace.SourceFile

/-!
The source listing: one file, line by line, with the marked line highlighted.
-/

namespace Retrace

/-- The source files and the one that is listed. -/
structure Listing where
  sources : List SourceFile
  selected : Nat

namespace Listing

/-- The listed file, if there is one. -/
def file? (l : Listing) : Option SourceFile := l.sources[l.selected]?

/-- The rows of the listing: the lines of the file with their numbers. -/
def rows (l : Listing) : List (Nat × String) :=
  match l.file? with
  | some f => f.numberedLines
  | none => []

/-- The name of the row of a line in the document. -/
def rowId (line : Nat) : String := s!"source-{line}"

/-- Whether the listing has a row for the line. -/
def hasRow (l : Listing) (line : Nat) : Bool := l.rows.any (·.1 == line)

/-- Whether there is a choice between files. -/
def hasPicker (l : Listing) : Bool := 1 < l.sources.length

/-- A row on the page. -/
def renderRow (marked : Option UInt32) (row : Nat × String) : Markup :=
  let (n, content) := row
  let isMarked := marked.map (·.toNat) = some n
  .element "tr" [("id", rowId n)] [
    .classed "td" "line-number" [.text (toString n)],
    .element "td" [] [
      .element "pre" (if isMarked then [("class", "marked-source-line")] else []) [.text content]]]

/-- The choice between the files on the page. -/
def renderPicker (l : Listing) : List Markup :=
  if l.hasPicker then
    [.classed "select" "source-picker" (l.sources.zipIdx.map fun (f, i) =>
      .element "option" [("value", toString i)] [.text f.name])]
  else []

/-- The lines of the listed file on the page. -/
def renderTable (l : Listing) (marked : Option UInt32) : List Markup :=
  match l.file? with
  | some f => [.classed "table" "source-table" (f.numberedLines.map (renderRow marked))]
  | none => []

/-- The listing on the page. -/
def render (l : Listing) (marked : Option UInt32) : Markup :=
  .classed "div" "source-panel" (l.renderPicker ++ l.renderTable marked)

end Listing

end Retrace
