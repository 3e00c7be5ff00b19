import Mathlib.Tactic.Lemma
import Retrace.Report
import Retrace.Proofs.Graph.RoundTrip

/-!
Written graphs and the reports that carry them.

* `Part.read_graph_print`: what the graph part of a report makes of a written graph;
* `Part.canonical_of_read`: what any text gives as the graph part;
* `Report.parse_print`: the graph of a report may be written and read again, and which graphs that
  are in memory survive this.
-/

namespace Retrace

open Json

/-- A text that a part is read from starts with a value of its reader. -/
lemma Part.gives_of_read {α : Type} {part : Part} {value : Reader α} {P : α → Prop}
    (h : Gives value P) {text : String} {a : α} (ha : part.read value text = .ok a) : P a := by
  rw [Part.read, document] at ha
  cases hvalue : value text.toList with
  | error f =>
      rw [hvalue] at ha
      cases ha
  | ok x =>
      obtain ⟨b, rest⟩ := x
      rw [hvalue] at ha
      cases hrest : skipBlanks rest with
      | nil =>
          simp only [hrest] at ha
          cases ha
          exact h _ _ _ hvalue
      | cons c more =>
          simp only [hrest] at ha
          cases ha

/-- The graph part of a report takes a written graph whole. -/
lemma Part.read_graph_print (g : Graph) :
    Part.graph.read Graph.read g.print = .ok g.canonical := by
  have hreads : Graph.read g.print.toList = .ok (g.canonical, []) := by
    simpa using g.readsBack.reads [] closes_nil
  rw [Part.read, document_eq_ok hreads]

namespace Report

/-- Reading a report reads its graph, whatever the other parts hold. -/
lemma parse_eq_ok {text : String} {sources settings : Option String} {report : Report} :
    parse text sources settings = .ok report ↔
      Part.graph.read Graph.read text = .ok report.graph ∧
      Part.sources.readOr [] (list SourceFile.shape.record) sources = .ok report.sources ∧
      Part.settings.readOr {} Settings.shape.record settings = .ok report.settings := by
  simp only [parse, bind_eq_ok]
  constructor
  · rintro ⟨graph, hgraph, files, hsources, chosen, hsettings, h⟩
    cases h
    exact ⟨hgraph, hsources, hsettings⟩
  · rintro ⟨hgraph, hsources, hsettings⟩
    exact ⟨_, hgraph, _, hsources, _, hsettings, rfl⟩

/-- **The graph of a report round-trips.**  A report that was read from texts is read again when its
graph is written in place of the graph text, with the same nodes and edges in the same order.  Any
graph at all is read when it is written, and it is the same graph exactly if each of its kinds is
the one that its tag stands for. -/
theorem parse_print :
    (∀ text sources settings report, parse text sources settings = .ok report →
      parse report.graph.print sources settings = .ok report) ∧
    ∀ g : Graph, ∃ report, parse g.print none none = .ok report ∧
      (report.graph = g ↔ ∀ n ∈ g.nodes,
        n.kind ≠ .other "merged" ∧ n.kind ≠ .other "none" ∧ n.kind ≠ .other "toMerge") := by
  constructor
  · intro text sources settings report h
    obtain ⟨hgraph, hsources, hsettings⟩ := parse_eq_ok.1 h
    have hcanonical : report.graph.canonical = report.graph :=
      Graph.canonical_eq_iff.2 (Part.gives_of_read Graph.gives_canonical hgraph)
    refine parse_eq_ok.2 ⟨?_, hsources, hsettings⟩
    rw [Part.read_graph_print, hcanonical]
  · intro g
    refine ⟨⟨g.canonical, [], {}⟩, parse_eq_ok.2 ⟨Part.read_graph_print g, rfl, rfl⟩, ?_⟩
    simp only [Graph.canonical_eq_iff, Kind.canonical_iff]

/-- A text with blanks, an escape, an unknown kind and fields left out: what is read from it is
written in full and read again. -/
theorem parse_print_defaults :
    let text := "\x7b \"edges\": [],\n\"nodes\": " ++
      "[\x7b\"index\":7,\"type\":\"p\\u0061st\",\"intervalStart\":-3\x7d]\x7d"
    let report : Report := ⟨⟨[⟨7, "", .other "past", -3, none, false⟩], []⟩, [], {}⟩
    parse text none none = .ok report ∧ parse report.graph.print none none = .ok report := by
  intro text report
  -- the readers recurse on the length of the text, which only the kernel unfolds
  have hsome : (Part.graph.read Graph.read text).toOption = some report.graph := by decide +kernel
  have hgraph : Part.graph.read Graph.read text = .ok report.graph := by
    cases hread : Part.graph.read Graph.read text with
    | ok g =>
        rw [hread] at hsome
        exact congrArg Except.ok (Option.some.inj hsome)
    | error f =>
        rw [hread] at hsome
        cases hsome
  have h : parse text none none = .ok report := parse_eq_ok.2 ⟨hgraph, rfl, rfl⟩
  exact ⟨h, parse_print.1 text none none report h⟩

end Report

end Retrace
