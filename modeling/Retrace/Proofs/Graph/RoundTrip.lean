import Mathlib.Tactic.Lemma
import Retrace.Graph.Json
import Retrace.Proofs.Json.Gives
import Retrace.Proofs.Json.ReadsBack

/-!
Written graphs are read back.

Every field of a node and of an edge is written, so nothing is left to a default.  The kind of a
node is written as its tag, and a tag stands for one kind only: of the two kinds with the tag
`merged` the one that names it is read back as the other.

* `Kind.Canonical`: a kind that its tag stands for; `Kind.canonical_iff` names the three that are
  none;
* `Graph.readsBack`: a written graph is read back with each kind replaced by the one that its tag
  stands for; `Graph.canonical_eq_iff`: when that is the graph itself;
* `Graph.gives_canonical`: no text is read as a graph with any other kind.
-/

namespace Retrace

open Json

/-! ### Kinds -/

namespace Kind

/-- The tag of the kind stands for this kind. -/
def Canonical (k : Kind) : Prop := ofTag k.tag = k

lemma canonical_ofTag (t : String) : (ofTag t).Canonical := by rw [Canonical, tag_ofTag]

lemma canonical_iff {k : Kind} :
    k.Canonical ↔ k ≠ .other "merged" ∧ k ≠ .other "none" ∧ k ≠ .other "toMerge" := by
  cases k with
  | merged | plain | toMerge => simp [Canonical, ofTag, tag]
  | other t => simp [Canonical, ofTag, tag]; grind

lemma readsBack (k : Kind) : ReadsBack Kind.read (printText k.tag) (ofTag k.tag) :=
  (readsBack_text k.tag).map ofTag

lemma gives_canonical : Gives Kind.read Canonical :=
  (gives_true text).map fun t _ => canonical_ofTag t

end Kind

/-! ### Nodes and edges -/

namespace Node

/-- The node with the kind that its tag stands for. -/
def canonical (n : Node) : Node := { n with kind := .ofTag n.kind.tag }

lemma canonical_eq_iff {n : Node} : n.canonical = n ↔ n.kind.Canonical := by
  obtain ⟨index, label, kind, start, stop, stopped⟩ := n
  simp [canonical, Kind.Canonical]

lemma readsBack (n : Node) : ReadsBack Node.shape.record n.print n.canonical := by
  have hstop : ReadsBack (optional integer64)
      (printOption (fun i : Int64 => printInt i.toInt) n.intervalStop) n.intervalStop := by
    refine readsBack_optional readsBack_integer64 (fun i => ?_) _
    obtain ⟨c, r, hprint, -, -, -, hc⟩ := opens_printInt i.toInt
    rw [hprint]
    simpa using hc
  refine Shape.readsBack_record ⟨some n.index, some n.label, some (.ofTag n.kind.tag),
    some n.intervalStart, some n.intervalStop, some n.analysisStop⟩ ?_ rfl
  exact .field rfl rfl (readsBack_natural32 n.index) <|
    .field rfl rfl (readsBack_text n.label) <|
    .field rfl rfl n.kind.readsBack <|
    .field rfl rfl (readsBack_integer64 n.intervalStart) <|
    .field rfl rfl hstop <|
    .field rfl rfl (readsBack_boolean n.analysisStop) <|
    .done _

/-- Whatever a node is read from, its kind is the one that a tag stands for. -/
lemma gives_canonical : Gives Node.shape.record fun n => n.kind.Canonical := by
  refine Shape.gives_record (fun d => ∀ k, d.kind = some k → k.Canonical)
    (fun k hk => by cases hk) ?_ ?_
  · intro f hf
    simp only [shape, List.mem_cons, List.not_mem_nil, or_false] at hf
    rcases hf with rfl | rfl | rfl | rfl | rfl | rfl
    case inr.inr.inl =>
      refine Field.keeps_of Kind.gives_canonical fun d k _ hk j hj => ?_
      obtain rfl := Option.some.inj hj
      exact hk
    -- the other fields leave the kind alone
    all_goals exact Field.keeps_of (gives_true _) fun _ _ hd _ => hd
  · intro d n hd hn
    obtain ⟨index, -, hn⟩ := bind_eq_ok.1 hn
    obtain ⟨start, -, hn⟩ := bind_eq_ok.1 hn
    cases hn
    cases hkind : d.kind with
    | none => rfl
    | some k => exact hd k hkind

end Node

lemma Edge.readsBack (e : Edge) : ReadsBack Edge.shape.record e.print e := by
  refine Shape.readsBack_record ⟨some e.source, some e.target, some e.label, some e.line⟩ ?_ rfl
  exact .field rfl rfl (readsBack_natural32 e.source) <|
    .field rfl rfl (readsBack_natural32 e.target) <|
    .field rfl rfl (readsBack_text e.label) <|
    .field rfl rfl (readsBack_integer64 e.line) <|
    .done _

/-! ### Graphs -/

namespace Graph

/-- The graph with every kind replaced by the one that its tag stands for. -/
def canonical (g : Graph) : Graph := { g with nodes := g.nodes.map Node.canonical }

lemma canonical_eq_iff {g : Graph} : g.canonical = g ↔ ∀ n ∈ g.nodes, n.kind.Canonical := by
  have hmap : g.nodes.map Node.canonical = g.nodes ↔ ∀ n ∈ g.nodes, n.canonical = n := by
    have := List.map_inj_left (f := Node.canonical) (g := id) (l := g.nodes)
    rwa [List.map_id] at this
  simp only [← Node.canonical_eq_iff, ← hmap]
  exact ⟨congrArg Graph.nodes, fun h => by rw [canonical, h]⟩

/-- **A written graph** is read back, with every kind replaced by the one that its tag stands
for. -/
theorem readsBack (g : Graph) : ReadsBack Graph.read g.print.toList g.canonical := by
  have hnodes : ReadsBack (list Node.shape.record) (printList Node.print g.nodes)
      (g.nodes.map Node.canonical) := by
    refine readsBack_list ?_
    rw [List.forall₂_map_left_iff, List.forall₂_map_right_iff, List.forall₂_same]
    exact fun n _ => n.readsBack
  have hedges : ReadsBack (list Edge.shape.record) (printList Edge.print g.edges) g.edges := by
    refine readsBack_list ?_
    rw [List.forall₂_map_left_iff, List.forall₂_same]
    exact fun e _ => e.readsBack
  rw [print, String.toList_ofList]
  refine Shape.readsBack_record ⟨some (g.nodes.map Node.canonical), some g.edges⟩ ?_ rfl
  exact .field rfl rfl hnodes <| .field rfl rfl hedges <| .done _

set_option maxRecDepth 20000 in
example : print ⟨[⟨7, "s", .plain, -3, none, true⟩], [⟨7, 8, "", -1⟩]⟩ =
    "\x7b\"nodes\":[\x7b\"index\":7,\"label\":\"s\",\"type\":\"none\",\"intervalStart\":-3," ++
      "\"intervalStop\":null,\"analysisStop\":true\x7d]," ++
      "\"edges\":[\x7b\"source\":7,\"target\":8,\"label\":\"\",\"line\":-1\x7d]\x7d" := by
  cbv

/-- **A graph that is read** has no kind but those that tags stand for. -/
theorem gives_canonical : Gives Graph.read fun g => ∀ n ∈ g.nodes, n.kind.Canonical := by
  refine Shape.gives_record (fun d => ∀ ns, d.nodes = some ns → ∀ n ∈ ns, n.kind.Canonical)
    (fun ns hns => by cases hns) ?_ ?_
  · intro f hf
    simp only [shape, List.mem_cons, List.not_mem_nil, or_false] at hf
    rcases hf with rfl | rfl
    · refine Field.keeps_of Node.gives_canonical.list fun d ns _ hns ms hms => ?_
      obtain rfl := Option.some.inj hms
      exact hns
    · exact Field.keeps_of (gives_true _) fun _ _ hd _ => hd
  · intro d g hd hg
    obtain ⟨nodes, hnodes, hg⟩ := bind_eq_ok.1 hg
    obtain ⟨edges, -, hg⟩ := bind_eq_ok.1 hg
    cases hg
    cases hdraft : d.nodes with
    | none =>
        rw [hdraft] at hnodes
        cases hnodes
    | some ns =>
        rw [hdraft] at hnodes
        cases hnodes
        exact hd nodes hdraft

end Graph

end Retrace
