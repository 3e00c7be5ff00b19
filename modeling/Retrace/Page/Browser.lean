import Retrace.Canvas.Surroundings
import Retrace.Report

/-!
The browser as the report page finds it.
-/

namespace Retrace

/-- The browser around the page. -/
structure Browser extends Surroundings where
  /-- The window has a document. -/
  document : Bool
  /-- The elements of the document outside the viewer, with their texts. -/
  elements : List (String × Option String)

namespace Browser

/-- Whether the document can be reached. -/
def reachable (b : Browser) : Bool := b.window && b.document

/-- The text of an element outside the viewer. -/
def elementText? (b : Browser) (id : String) : Option String :=
  if b.reachable then (b.elements.lookup id).join else none

/-- Whether there is an element outside the viewer. -/
def hasElement (b : Browser) (id : String) : Bool := b.elements.any (·.1 == id)

/-- The report that the document carries. -/
def report (b : Browser) : Except ReportError Report := Report.ofPage b.elementText?

end Browser

end Retrace
