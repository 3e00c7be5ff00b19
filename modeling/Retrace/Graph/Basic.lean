/-!
The reachability graph of an analysis, as a report carries it.

A node is a program state with the interval of steps in which it is alive; an edge is a transition
between two states, often with the source line that causes it.  Nothing is promised of the
data: indices may repeat, and an edge may name a node that is not there.
-/

namespace Retrace

/-- The index of a node. -/
abbrev NodeId := UInt32

/-- The place of an edge in the list of edges. -/
abbrev EdgeId := Nat

/-- How a node takes part in merges. -/
inductive Kind where
  /-- A state that a merge produced. -/
  | merged
  /-- A state without a part in merges. -/
  | plain
  /-- A state that will be merged later. -/
  | toMerge
  /-- Any other tag. -/
  | other (tag : String)
  deriving DecidableEq, Repr

namespace Kind

/-- The kind that a tag stands for. -/
def ofTag (tag : String) : Kind :=
  if tag = "merged" then .merged
  else if tag = "none" then .plain
  else if tag = "toMerge" then .toMerge
  else .other tag

/-- The tag of a kind. -/
def tag : Kind → String
  | .merged => "merged"
  | .plain => "none"
  | .toMerge => "toMerge"
  | .other tag => tag

/-- Whether reaching a node of this kind ends every merge highlight. -/
def clearsHighlight : Kind → Bool
  | .plain | .toMerge => true
  | .merged | .other _ => false

/-- The kind read off a tag has that tag. -/
theorem tag_ofTag (t : String) : (ofTag t).tag = t := by
  unfold ofTag
  repeat' split
  all_goals simp_all [tag]

end Kind

/-- A program state of the analysis. -/
structure Node where
  index : NodeId
  label : String
  kind : Kind
  /-- The step order of the nodes is that of their starts. -/
  intervalStart : Int64
  /-- The index at which the edges of the node expire. -/
  intervalStop : Option Int64
  /-- The analysis stopped at this state. -/
  analysisStop : Bool
  deriving DecidableEq

/-- A transition between two program states. -/
structure Edge where
  source : NodeId
  target : NodeId
  label : String
  /-- The source line of the transition; negative if it has none. -/
  line : Int64
  deriving DecidableEq

/-- The source line to mark, if the edge has one. -/
def Edge.lineNumber (e : Edge) : Option UInt32 :=
  match e.line.toInt with
  | .ofNat line => if line < UInt32.size then some (.ofNat line) else none
  | .negSucc _ => none

/-- The nodes and edges of a report, in the order of the data. -/
structure Graph where
  nodes : List Node
  edges : List Edge
  deriving DecidableEq

end Retrace
