import Retrace.Canvas.Basic
import Retrace.Dataset
import Retrace.Page.Basic
import Retrace.Proofs.Canvas.Arrows
import Retrace.Proofs.Canvas.Dimming
import Retrace.Proofs.Canvas.Drags
import Retrace.Proofs.Canvas.Frames
import Retrace.Proofs.Canvas.Pointing
import Retrace.Proofs.Canvas.Portraits
import Retrace.Proofs.Canvas.Tidiness
import Retrace.Proofs.Graph.Defects
import Retrace.Proofs.Graph.Incidence
import Retrace.Proofs.Graph.Indexing
import Retrace.Proofs.Guarded.Scene
import Retrace.Proofs.Page.Course
import Retrace.Proofs.Page.Lines
import Retrace.Proofs.Page.Scrolling
import Retrace.Proofs.Page.Sync
import Retrace.Proofs.Replay.Highlights
import Retrace.Proofs.Replay.MarkedLine
import Retrace.Proofs.Replay.OpenEdges
import Retrace.Proofs.Replay.WellFormed
import Retrace.Proofs.Report.RoundTrip
import Retrace.Proofs.Scene.Columns
import Retrace.Proofs.Scene.Focus
import Retrace.Proofs.Scene.Gaps
import Retrace.Proofs.Scene.Links
import Retrace.Proofs.Scene.Queue
import Retrace.Replay.Engine
import Retrace.Report
import Retrace.Scene.Hover
