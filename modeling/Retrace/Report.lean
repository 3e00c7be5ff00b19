import Retrace.Graph.Json
import Retrace.Settings
import Retrace.SourceFile
import Retrace.Text.Blank

/-!
Reports.

A report is embedded in a page as up to three JSON texts: the graph, the analysed source files and
the settings.  Only the graph has to be there.
-/

namespace Retrace

/-- The places of a page that hold the parts of a report. -/
inductive Part where
  | graph
  | sources
  | settings
  deriving DecidableEq, Repr

/-- The name of the place in the page. -/
def Part.element : Part → String
  | .graph => "collector-data"
  | .sources => "collector-sources"
  | .settings => "collector-config"

/-- Why a page holds no report. -/
inductive ReportError where
  | missing (part : Part)
  | malformed (part : Part) (fault : Json.Malformed)
  deriving DecidableEq

/-- The wording of the error. -/
def ReportError.message : ReportError → String
  | .missing part => s!"report element #{part.element} not found in the page"
  | .malformed part fault => s!"malformed JSON in #{part.element}: " ++ fault.message

/-- Everything that the viewer shows. -/
structure Report where
  graph : Graph
  sources : List SourceFile
  settings : Settings

/-- Reads one part of a report. -/
def Part.read {α : Type} (part : Part) (value : Json.Reader α) (text : String) :
    Except ReportError α :=
  match Json.document value text with
  | .ok a => .ok a
  | .error fault => .error (.malformed part fault)

/-- Reads a part that may be absent. -/
def Part.readOr {α : Type} (part : Part) (absent : α) (value : Json.Reader α) :
    Option String → Except ReportError α
  | some text => part.read value text
  | none => .ok absent

namespace Report

/-- Reads a report from its texts; the first part that is malformed decides the error. -/
def parse (graph : String) (sources settings : Option String) : Except ReportError Report := do
  let graph ← Part.graph.read Graph.read graph
  let sources ← Part.sources.readOr [] (Json.list SourceFile.shape.record) sources
  let settings ← Part.settings.readOr {} Settings.shape.record settings
  return { graph, sources, settings }

/-- Reads a report off a page whose elements have the given texts.  An element without a text, or
with nothing but white space, counts as absent. -/
def ofPage (elementText : String → Option String) : Except ReportError Report :=
  let content (part : Part) := (elementText part.element).filter fun t => !Text.isBlankText t
  match content .graph with
  | none => .error (.missing .graph)
  | some graph => parse graph (content .sources) (content .settings)

end Report

end Retrace
