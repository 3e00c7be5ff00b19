import Mathlib.Data.List.Basic
import Mathlib.Data.List.Induction
import Mathlib.Tactic.ByContra
import Retrace.Proofs.Canvas.Frames
import Retrace.Proofs.Page.Elements
import Retrace.Proofs.Page.Requests

/-!
The page of a report follows the replay.

Whatever is done to the page, its views show an engine to which the first step and then the actions
that have been asked for have been applied, and the listing shows the file picked last.  A frame
that fails changes nothing about this: it stops the canvas alone.

* `Viewer.turn_cases`: what an event can lead to; `Viewer.viewer_turn`: the replay, the listing and
  the canvas take it independently;
* `Viewer.InSync`: the viewer shows an engine; `Viewer.inSync_mount`, `Viewer.InSync.turn` and
  `Viewer.InSync.run` carry it from event to event;
* `Viewer.canvas_run_of_free`, `Viewer.canvas_run_of_stuck`: what becomes of the canvas;
* `Page.Shows`: what can be seen on a page; `Page.shows_of_inSync`;
* `Report.pageAfter`: the page of a report after some events;
* `Page.Stalls`: the events that stop the canvas; `Report.canvas?_pageAfter`;
* `Page.run_home`: the page of a report shows what its events have led to.
-/

namespace Retrace

/-! ### What the views show of an engine -/

/-- What the views show once they have taken everything that an engine has pushed. -/
def Engine.display (e : Engine) : Display :=
  ⟨e.visual, e.visual.markedLine, ⟨0, e.maxStep, e.current⟩⟩

/-- Whatever the views showed before, after an action they show the engine. -/
lemma Engine.take_act (e : Engine) (a : Action) (d : Display) :
    (e.act a).pushes.foldl Display.take d = (e.act a).engine.display := by
  rw [pushes_act]
  cases hline : (e.act a).engine.visual.markedLine <;>
    simp [Push.ofMark, Display.take, display, hline]

/-! ### One event -/

/-- What an event does to the canvas. -/
def Canvas.take (c : Canvas) (env : Surroundings) (v : Visual) :
    PageEvent → Except SimulationFault Canvas
  | .gesture g => .ok (c.handle env v g).1
  | .frames n => (Canvas.frames env v n c).map (·.1)
  | .windowResized => .ok (c.windowResized env).1
  | .click _ | .slide _ | .pick _ | .elsewhere => .ok c

/-- The event is one or more frames. -/
def PageEvent.animates : PageEvent → Bool
  | .frames n => 0 < n
  | .click _ | .slide _ | .pick _ | .gesture _ | .windowResized | .elsewhere => false

namespace Canvas

variable {c : Canvas} {env : Surroundings} {v : Visual} {x : PageEvent}

lemma Free.take (h : c.Free) (x : PageEvent) :
    ∃ after, c.take env v x = .ok after ∧ after.Free := by
  cases x with
  | gesture g => exact ⟨_, rfl, h.handle g⟩
  | frames n =>
      obtain ⟨after, effects, hframes, hfree⟩ := frames_of_free env v h n
      exact ⟨after, by rw [Canvas.take, hframes]; rfl, hfree⟩
  | windowResized => exact ⟨_, rfl, h.windowResized⟩
  | click _ | slide _ | pick _ | elsewhere => exact ⟨c, rfl, h⟩

lemma Stuck.take (h : c.Stuck) (hx : x.animates = false) :
    ∃ after, c.take env v x = .ok after ∧ after.Stuck := by
  cases x with
  | gesture g => exact ⟨_, rfl, h.handle g⟩
  | frames n =>
      cases n with
      | zero => exact ⟨c, rfl, h⟩
      | succ n => simp [PageEvent.animates] at hx
  | windowResized => exact ⟨_, rfl, h.windowResized⟩
  | click _ | slide _ | pick _ | elsewhere => exact ⟨c, rfl, h⟩

lemma Stuck.take_of_animates (h : c.Stuck) (hx : x.animates) :
    c.take env v x = .error .selfAttraction := by
  cases x with
  | frames n =>
      cases n with
      | zero => simp [PageEvent.animates] at hx
      | succ n =>
          rw [Canvas.take, frames_of_stuck h]
          rfl
  | click _ | slide _ | pick _ | gesture _ | windowResized | elsewhere => cases hx

end Canvas

/-- The viewer once the replay has taken the action that an event asks for, and the listing the
file that it picks. -/
def Viewer.follow (v : Viewer) (x : PageEvent) : Viewer :=
  let v := (x.action? v.fullGraph).elim v fun a => (v.act a).viewer
  (x.picked? v.listing.sources).elim v fun place => (v.pick place).viewer

namespace Viewer

variable (v : Viewer) (b : Browser) (x : PageEvent)

/-- The replay, the listing and the canvas take an event independently of each other. -/
lemma viewer_turn : (v.turn b x).viewer = { v.follow x with
    canvas := v.canvas.bind fun c => c.take b.toSurroundings v.display.visual x } := by
  obtain ⟨engine, display, listing, canvas, mode⟩ := v
  cases x with
  | click button =>
      rw [turn, follow, PageEvent.action?]
      dsimp only
      cases Controls.buttonAction mode button <;> cases canvas <;> rfl
  | slide value =>
      rw [turn, follow, PageEvent.action?]
      dsimp only
      cases Controls.parseNumber value <;> cases canvas <;> rfl
  | pick value =>
      rw [turn, Listing.hasPicker, follow, PageEvent.action?, Option.elim_none, PageEvent.picked?]
      by_cases hpicker : 1 < listing.sources.length
      · rw [if_pos hpicker, if_pos (decide_eq_true hpicker)]
        cases Controls.parseNumber value <;> cases canvas <;> rfl
      · rw [if_neg hpicker, if_neg (by simpa using hpicker)]
        cases canvas <;> rfl
  | gesture g => cases canvas <;> rfl
  | frames n =>
      cases canvas with
      | error f => rfl
      | ok c =>
          rw [turn, frames]
          simp only [Except.bind, Canvas.take]
          cases Canvas.frames b.toSurroundings display.visual n c <;> rfl
  | windowResized => cases canvas <;> rfl
  | elsewhere => cases canvas <;> rfl

/-- An event that asks for an action leads to it.  Any other event changes the viewer and nothing
else, or it is one for the canvas. -/
lemma turn_cases :
    (∃ a, x.action? v.fullGraph = some a ∧ v.turn b x = v.act a) ∨
    x.action? v.fullGraph = none ∧
      ((∃ viewer taken, v.turn b x = { viewer, taken }) ∨
        (∃ g, v.turn b x = v.gesture b g) ∨ (∃ n, v.turn b x = v.frames b n) ∨
        v.turn b x = v.windowResized b) := by
  cases x with
  | click button =>
      rw [turn, PageEvent.action?]
      cases Controls.buttonAction v.fullGraph button with
      | some a => exact .inl ⟨a, rfl, rfl⟩
      | none => exact .inr ⟨rfl, .inl ⟨_, _, rfl⟩⟩
  | slide value =>
      rw [turn, PageEvent.action?]
      cases Controls.parseNumber value with
      | some step => exact .inl ⟨_, rfl, rfl⟩
      | none => exact .inr ⟨rfl, .inl ⟨_, _, rfl⟩⟩
  | pick value =>
      refine .inr ⟨rfl, .inl ?_⟩
      rw [turn]
      split
      · split <;> exact ⟨_, _, rfl⟩
      · exact ⟨_, _, rfl⟩
  | gesture g => exact .inr ⟨rfl, .inr (.inl ⟨g, rfl⟩)⟩
  | frames n => exact .inr ⟨rfl, .inr (.inr (.inl ⟨n, rfl⟩))⟩
  | windowResized => exact .inr ⟨rfl, .inr (.inr (.inr rfl))⟩
  | elsewhere => exact .inr ⟨rfl, .inl ⟨_, _, rfl⟩⟩

/-- Nothing is pushed unless something is asked of the replay. -/
lemma pushes_turn (h : x.action? v.fullGraph = none) : (v.turn b x).pushes = [] := by
  obtain ⟨a, ha, -⟩ | ⟨-, ⟨viewer, taken, hturn⟩ | ⟨g, hturn⟩ | ⟨n, hturn⟩ | hturn⟩ :=
    v.turn_cases b x
  · rw [h] at ha
    cases ha
  · rw [hturn]
  · rw [hturn, gesture]
    split <;> rfl
  · rw [hturn, frames]
    split
    · split <;> rfl
    · rfl
  · rw [hturn, windowResized]
    split <;> rfl

/-- A fault is one of the canvas, and it stops the canvas. -/
lemma canvas_turn_of_fault {f : SimulationFault} (h : (v.turn b x).fault = some f) :
    (v.turn b x).viewer.canvas = .error f := by
  obtain ⟨a, -, hturn⟩ | ⟨-, ⟨viewer, taken, hturn⟩ | ⟨g, hturn⟩ | ⟨n, hturn⟩ | hturn⟩ :=
    v.turn_cases b x <;> rw [hturn] at h ⊢
  · cases h
  · cases h
  · rw [gesture] at h ⊢
    split at h
    · cases h
    · case _ hstopped =>
        dsimp only at h
        split at h <;> cases h
        rw [hstopped]
  · rw [frames] at h ⊢
    split at h
    · split at h <;> cases h
      rfl
    · cases h
  · rw [windowResized] at h
    split at h <;> cases h

/-- The viewer after some events, each of which finds a browser around it. -/
def run (events : List (Browser × PageEvent)) : Viewer :=
  events.foldl (fun v x => (v.turn x.1 x.2).viewer) v

lemma run_concat (events : List (Browser × PageEvent)) :
    v.run (events ++ [(b, x)]) = ((v.run events).turn b x).viewer :=
  List.foldl_concat _ _ _ _

end Viewer

/-! ### The viewer and the engine -/

namespace Viewer

/-- The viewer of a report shows an engine and lists the file at a place. -/
structure InSync (r : Report) (e : Engine) (selected : Nat) (v : Viewer) : Prop where
  engine : v.engine = e
  display : v.display = e.display
  listing : v.listing = ⟨r.sources, selected⟩
  fullGraph : v.fullGraph = r.settings.fullGraph

variable {r : Report} {e : Engine} {selected : Nat} {v : Viewer}

lemma inSync_mount (b : Browser) (r : Report) :
    InSync r (r.engineAfter []) (r.placeAfter []) (mount b r).1 where
  engine := rfl
  display := Engine.take_act _ _ _
  listing := rfl
  fullGraph := rfl

namespace InSync

lemma act (h : InSync r e selected v) (a : Action) :
    InSync r (e.act a).engine selected (v.act a).viewer where
  engine := by rw [Viewer.act, h.engine]
  display := by rw [Viewer.act, h.engine]; exact Engine.take_act _ _ _
  listing := h.listing
  fullGraph := h.fullGraph

lemma pick (h : InSync r e selected v) (place : Nat) :
    InSync r e place (v.pick place).viewer where
  engine := h.engine
  display := h.display
  listing := by rw [Viewer.pick, h.listing]
  fullGraph := h.fullGraph

/-- The replay takes the action asked for, and the listing the file picked. -/
lemma follow (h : InSync r e selected v) (x : PageEvent) :
    InSync r (e.run (x.action? r.settings.fullGraph).toList)
      ((x.picked? r.sources).getD selected) (v.follow x) := by
  have hact : InSync r (e.run (x.action? r.settings.fullGraph).toList) selected
      ((x.action? v.fullGraph).elim v fun a => (v.act a).viewer) := by
    rw [h.fullGraph]
    cases x.action? r.settings.fullGraph with
    | none => exact h
    | some a => exact h.act a
  rw [Viewer.follow, hact.listing]
  cases x.picked? r.sources with
  | none => exact hact
  | some place => exact hact.pick place

/-- Whatever becomes of the canvas, the viewer goes on to show the replay. -/
lemma turn (h : InSync r e selected v) (b : Browser) (x : PageEvent) :
    InSync r (e.run (x.action? r.settings.fullGraph).toList)
      ((x.picked? r.sources).getD selected) (v.turn b x).viewer := by
  rw [viewer_turn]
  exact ⟨(h.follow x).engine, (h.follow x).display, (h.follow x).listing, (h.follow x).fullGraph⟩

lemma run {done : List PageEvent} (h : InSync r (r.engineAfter done) (r.placeAfter done) v)
    (events : List (Browser × PageEvent)) :
    InSync r (r.engineAfter (done ++ events.map (·.2))) (r.placeAfter (done ++ events.map (·.2)))
      (v.run events) := by
  induction events using List.reverseRecOn with
  | nil => rwa [List.map_nil, List.append_nil]
  | append_singleton events x ih =>
      obtain ⟨b, x⟩ := x
      rw [run_concat, List.map_append, List.map_singleton, ← List.append_assoc,
        r.engineAfter_concat, r.placeAfter_concat]
      exact ih.turn b x

end InSync

/-! ### The viewer and the canvas -/

variable {c : Canvas}

/-- A canvas without a particle joined to itself is never stopped. -/
lemma canvas_run_of_free (h : v.canvas = .ok c) (hc : c.Free)
    (events : List (Browser × PageEvent)) :
    ∃ after, (v.run events).canvas = .ok after ∧ after.Free := by
  induction events using List.reverseRecOn with
  | nil => exact ⟨c, h, hc⟩
  | append_singleton events x ih =>
      obtain ⟨before, hbefore, hfree⟩ := ih
      obtain ⟨after, hafter, hfree'⟩ := hfree.take x.2
      refine ⟨after, ?_, hfree'⟩
      rw [run_concat, viewer_turn, hbefore]
      exact hafter

/-- A canvas that waits for a frame with such a particle is stopped by the first frame. -/
lemma canvas_run_of_stuck (h : v.canvas = .ok c) (hc : c.Stuck)
    (events : List (Browser × PageEvent)) :
    ((∃ x ∈ events, x.2.animates) → (v.run events).canvas = .error .selfAttraction)
      ∧ ((∀ x ∈ events, x.2.animates = false) →
        ∃ after, (v.run events).canvas = .ok after ∧ after.Stuck) := by
  induction events using List.reverseRecOn with
  | nil =>
      refine ⟨?_, fun _ => ⟨c, h, hc⟩⟩
      rintro ⟨x, hx, -⟩
      cases hx
  | append_singleton events x ih =>
      obtain ⟨hstopped, hwaits⟩ := ih
      rw [run_concat, viewer_turn]
      dsimp only
      by_cases hbefore : ∃ y ∈ events, y.2.animates
      · rw [hstopped hbefore]
        refine ⟨fun _ => rfl, fun hnone => ?_⟩
        obtain ⟨y, hy, hanimates⟩ := hbefore
        rw [hnone y (List.mem_append_left _ hy)] at hanimates
        cases hanimates
      · have hnone : ∀ y ∈ events, y.2.animates = false := by simpa using hbefore
        obtain ⟨before, hok, hstuck⟩ := hwaits hnone
        rw [hok]
        refine ⟨fun hany => ?_, fun hall => ?_⟩
        · obtain ⟨y, hy, hanimates⟩ := hany
          rcases List.mem_append.1 hy with hy | hy
          · exact absurd ⟨y, hy, hanimates⟩ hbefore
          · obtain rfl := List.mem_singleton.1 hy
            exact hstuck.take_of_animates hanimates
        · exact hstuck.take (hall x (List.mem_append_right _ List.mem_cons_self))

end Viewer

namespace Page

open Markup

/-! ### What can be seen -/

/-- The page shows an engine, and the lines of a file if there is one. -/
structure Shows (p : Page) (e : Engine) (file? : Option SourceFile) : Prop where
  /-- There is one slider, from zero to the last step, and it stands at the current one. -/
  slider : ∃ s, withClass "step-slider" p.render = [s] ∧ s.attribute? "min" = some "0" ∧
    s.attribute? "max" = some (toString e.maxStep) ∧
    s.attribute? "prop:value" = some (toString e.current)
  /-- There is one readout, and it says which step of how many this is. -/
  readout : ∃ o, withClass "step-readout" p.render = [o] ∧
    o.children = [.text s!"Step {e.current} / {e.maxStep}"]
  /-- There is one table if there is a file, with a row for each of its lines, and the line with
  the number of the marked one carries the mark. -/
  listing : (withClass "source-table" p.render).map (fun t => t.children.map ListedRow.read?)
    = file?.toList.map fun f => f.numberedLines.map fun line =>
        some (ListedRow.ofLine e.visual.markedLine line)
  /-- Nothing else on the page carries the mark. -/
  marked : (withClass "marked-source-line" p.render).map (·.children)
    = ((file?.toList.flatMap (·.numberedLines)).filter fun line =>
        e.visual.markedLine.map (·.toNat) = some line.1).map fun line => [.text line.2]
  /-- The canvas has the picture of the engine: as long as it has not been stopped, frames paint
  this picture and gestures find what it shows. -/
  canvas : ∃ v, p = .viewer v ∧ v.display.visual = e.visual ∧ ∀ c, v.canvas = .ok c →
    (∀ b n, p.respond b (.frames n) =
      match Canvas.frames b.toSurroundings e.visual n c with
      | .ok (c, effects) => ⟨.viewer { v with canvas := .ok c }, true, effects, [], none⟩
      | .error f => ⟨.viewer { v with canvas := .error f }, true, [], [], some f⟩) ∧
    ∀ b g, p.respond b (.gesture g) =
      let (c, effects) := c.handle b.toSurroundings e.visual g
      ⟨.viewer { v with canvas := .ok c }, true, effects, [], none⟩

/-- An event that asks nothing of the replay does not make the listing scroll. -/
lemma respond_viewer {b : Browser} {v : Viewer} {x : PageEvent}
    (h : x.action? v.fullGraph = none) :
    respond b (.viewer v) x = ⟨.viewer (v.turn b x).viewer, (v.turn b x).taken,
      (v.turn b x).effects, (v.turn b x).log, (v.turn b x).fault⟩ := by
  rw [respond, v.pushes_turn b x h, Viewer.scrollAfter, List.any_nil, if_neg Bool.false_ne_true,
    List.append_nil]

lemma shows_of_inSync {r : Report} {e : Engine} {selected : Nat} {v : Viewer}
    (h : v.InSync r e selected) : Shows (.viewer v) e r.sources[selected]? where
  slider := by
    refine ⟨_, v.withClass_slider, ?_⟩
    have hzero : Nat.repr 0 = "0" := rfl
    simp [h.display, attribute?, List.lookup_cons, Engine.display, hzero]
  readout := by
    refine ⟨_, v.withClass_readout, ?_⟩
    rw [h.display]
    rfl
  listing := by
    rw [render, v.withClass_table, h.display, h.listing, Listing.renderTable, Listing.file?]
    cases r.sources[selected]? with
    | none => rfl
    | some f => simp [Markup.children, classed, Function.comp_def, ListedRow.read?_renderRow,
        Engine.display]
  marked := by
    rw [render, v.withClass_marked, h.display, h.listing, Listing.rows, Listing.file?]
    cases r.sources[selected]? with
    | none => rfl
    | some f => simp [Markup.children, classed, Function.comp_def, Engine.display]
  canvas := by
    have hvisual : v.display.visual = e.visual := by rw [h.display]; rfl
    refine ⟨v, rfl, hvisual, fun c hc => ⟨fun b n => ?_, fun b g => ?_⟩⟩
    · rw [respond_viewer rfl, Viewer.turn, Viewer.frames, hc, hvisual]
      dsimp only
      cases Canvas.frames b.toSurroundings e.visual n c <;> rfl
    · rw [respond_viewer rfl, Viewer.turn, Viewer.gesture, hc, hvisual]

/-! ### Events one after the other -/

/-- The page after some events, each of which finds a browser around it. -/
def run (p : Page) (events : List (Browser × PageEvent)) : Page :=
  events.foldl (fun p x => (p.respond x.1 x.2).page) p

lemma run_viewer (v : Viewer) (events : List (Browser × PageEvent)) :
    run (.viewer v) events = .viewer (v.run events) := by
  induction events generalizing v with
  | nil => rfl
  | cons x events ih => exact ih _

/-- The canvas of a page, if there is one, or the fault that has stopped it. -/
def canvas? : Page → Option (Except SimulationFault Canvas)
  | .viewer v => some v.canvas
  | .failed _ | .notFound => none

/-- The report is drawn, has an edge from a node to itself, and is given a frame. -/
def Stalls (b : Browser) (r : Report) (events : List (Browser × PageEvent)) : Prop :=
  (b.mounted ∧ b.window ∧ b.drawable ∧ (Dataset.ofGraph r.graph).HasLoop) ∧
    ∃ x ∈ events, x.2.animates

end Page

namespace Report

/-- The page of a report after some events. -/
def pageAfter (r : Report) (b : Browser) (events : List (Browser × PageEvent)) : Page :=
  Page.run (Page.home b (some (.ok r))).1 events

variable (r : Report) (b : Browser) (events : List (Browser × PageEvent))

lemma pageAfter_eq : r.pageAfter b events = .viewer ((Viewer.mount b r).1.run events) :=
  Page.run_viewer _ _

lemma inSync_pageAfter : Viewer.InSync r (r.engineAfter (events.map (·.2)))
    (r.placeAfter (events.map (·.2))) ((Viewer.mount b r).1.run events) :=
  (Viewer.inSync_mount b r).run events

/-- The canvas of the page is stopped by the events that it stalls at, and by no others. -/
lemma canvas?_pageAfter :
    (Page.Stalls b r events → (r.pageAfter b events).canvas? = some (.error .selfAttraction))
      ∧ (¬ Page.Stalls b r events → ∃ c, (r.pageAfter b events).canvas? = some (.ok c)) := by
  have hcanvas : (Viewer.mount b r).1.canvas = .ok (Canvas.mount
      { showEdgeLabels := r.settings.showEdgeLabels } b.toSurroundings (.ofGraph r.graph)).1 := rfl
  rw [pageAfter_eq, Page.canvas?]
  by_cases hloop : b.mounted ∧ b.window ∧ b.drawable ∧ (Dataset.ofGraph r.graph).HasLoop
  · obtain ⟨hstopped, hwaits⟩ := Viewer.canvas_run_of_stuck hcanvas
      (Canvas.mount_stuck hloop.1 hloop.2.1 hloop.2.2.1 hloop.2.2.2) events
    refine ⟨fun hstalls => congrArg some (hstopped hstalls.2), fun hnone => ?_⟩
    have hstill : ∀ x ∈ events, x.2.animates = false := by
      intro x hx
      by_contra hanimates
      exact hnone ⟨hloop, x, hx, by simpa using hanimates⟩
    obtain ⟨c, hc, -⟩ := hwaits hstill
    exact ⟨c, congrArg some hc⟩
  · refine ⟨fun hstalls => absurd hstalls.1 hloop, fun _ => ?_⟩
    obtain ⟨c, hc, -⟩ := Viewer.canvas_run_of_free hcanvas (Canvas.mount_free hloop) events
    exact ⟨c, congrArg some hc⟩

end Report

namespace Page

/-- **The page of a report follows the replay.**  Any events lead to an engine, which has taken the
first step and then each action that they ask for, and to a file, the one picked last; and after
them the page shows this engine and this file.  All that can fail is the canvas of a drawn graph
with an edge from a node to itself: the first frame stops it, and it fails at some gestures from
then on.  Without such a frame it goes on. -/
theorem run_home (b : Browser) (r : Report) (events : List (Browser × PageEvent)) :
    (∃ e file?, r.ComesTo (events.map (·.2)) e file?) ∧
    ∀ e file?, r.ComesTo (events.map (·.2)) e file? →
      (r.pageAfter b events).Shows e file? ∧
      (Stalls b r events → (r.pageAfter b events).canvas? = some (.error .selfAttraction)) ∧
      (¬ Stalls b r events → ∃ c, (r.pageAfter b events).canvas? = some (.ok c)) ∧
      ∀ b' x, ((r.pageAfter b events).respond b' x).fault ≠ none →
        Stalls b r (events ++ [(b', x)]) := by
  obtain ⟨hstopped, hgoes⟩ := r.canvas?_pageAfter b events
  refine ⟨⟨_, _, r.comesTo_iff.2 ⟨rfl, rfl⟩⟩, fun e file? h => ?_⟩
  obtain ⟨rfl, rfl⟩ := r.comesTo_iff.1 h
  refine ⟨?_, hstopped, hgoes, fun b' x hfault => ?_⟩
  · rw [r.pageAfter_eq]
    exact shows_of_inSync (r.inSync_pageAfter b events)
  · by_contra hnot
    obtain ⟨c, hc⟩ := (r.canvas?_pageAfter b (events ++ [(b', x)])).2 hnot
    obtain ⟨f, hf⟩ := Option.ne_none_iff_exists'.1 hfault
    rw [r.pageAfter_eq] at hf
    rw [r.pageAfter_eq, Viewer.run_concat, canvas?, Viewer.canvas_turn_of_fault _ _ _ hf] at hc
    cases hc

/-- A browser with nothing around the page, which draws the canvas. -/
def drawing : Browser where
  window := true
  document := true
  mounted := true
  drawable := true
  inner := (none, none)
  parent := none
  corner := (0, 0)
  elements := []

/-- A report whose last step marks the second line of the first of its files; the node of this step
is joined to itself. -/
def looping : Report where
  graph := {
    nodes := [⟨0, "", .plain, 0, none, false⟩, ⟨1, "", .plain, 1, none, false⟩]
    edges := [⟨0, 1, "", 2⟩, ⟨1, 1, "", -1⟩] }
  sources := [⟨"main.c", "int x;\nx = 1;"⟩, ⟨"short.c", "int y;"⟩]
  settings := {}

/-- A frame, and then each button, the slider and the picker, some of them in vain. -/
def commotion : List (Browser × PageEvent) :=
  [.frames 1, .click "Next", .click "Close", .slide "1x", .click "Reset", .slide "+1", .pick "1",
    .click "Previous", .pick "", .click "Full graph", .pick "00"].map fun x => (drawing, x)

/-- The frame stops the canvas, and the page goes on to follow the replay. -/
theorem run_home_commotion :
    looping.ComesTo (commotion.map (·.2))
      ((Engine.ofGraph looping.graph).run
        [.advanceTo 0, .stepForward, .reset, .advanceTo 1, .stepBack, .showFull .replay])
      (some ⟨"main.c", "int x;\nx = 1;"⟩)
    ∧ (looping.pageAfter drawing commotion).canvas? = some (.error .selfAttraction)
    ∧ (∃ o, Markup.withClass "step-readout" (looping.pageAfter drawing commotion).render = [o]
      ∧ o.children = [.text "Step 1 / 1"])
    ∧ (Markup.withClass "marked-source-line" (looping.pageAfter drawing commotion).render).map
      (·.children) = [[.text "x = 1;"]] := by
  have hzero : Controls.Denotes "00" 0 := Controls.denotes_of_lt (.inl rfl) (by decide) (by decide)
  have hone : Controls.Denotes "1" 1 := Controls.denotes_of_lt (.inl rfl) (by decide) (by decide)
  have hplus : Controls.Denotes "+1" 1 := Controls.denotes_of_lt (.inr rfl) (by decide) (by decide)
  have hactions : PageEvent.Collected (PageEvent.Asks .replay) (commotion.map (·.2))
      [.stepForward, .reset, .advanceTo 1, .stepBack, .showFull .replay] :=
    .ignored (PageEvent.not_asks rfl) <| .asked .forward <| .ignored (PageEvent.not_asks rfl) <|
      .ignored (PageEvent.not_asks rfl) <| .asked .reset <| .asked (.step hplus) <|
      .ignored (PageEvent.not_asks rfl) <| .asked .back <| .ignored (PageEvent.not_asks rfl) <|
      .asked .full <| .ignored (PageEvent.not_asks rfl) .nil
  have hplaces : PageEvent.Collected (PageEvent.Picks looping.sources) (commotion.map (·.2))
      [1, 0] :=
    .ignored (PageEvent.not_picks rfl) <| .ignored (PageEvent.not_picks rfl) <|
      .ignored (PageEvent.not_picks rfl) <| .ignored (PageEvent.not_picks rfl) <|
      .ignored (PageEvent.not_picks rfl) <| .ignored (PageEvent.not_picks rfl) <|
      .asked (.pick (by decide) hone) <| .ignored (PageEvent.not_picks rfl) <|
      .ignored (PageEvent.not_picks rfl) <| .ignored (PageEvent.not_picks rfl) <|
      .asked (.pick (by decide) hzero) .nil
  have hcomes : looping.ComesTo (commotion.map (·.2)) _ _ := ⟨⟨_, hactions, rfl⟩, ⟨_, hplaces, rfl⟩⟩
  have hstalls : Stalls drawing looping commotion :=
    ⟨⟨rfl, rfl, rfl, ⟨1, 1, "", -1⟩, List.mem_cons_of_mem _ List.mem_cons_self, rfl,
      ⟨1, "", .plain, 1, none, false⟩,
      List.mem_mergeSort.2 (List.mem_cons_of_mem _ List.mem_cons_self), rfl⟩,
      (drawing, .frames 1), List.mem_map_of_mem List.mem_cons_self, rfl⟩
  obtain ⟨hshows, hstopped, -, -⟩ := (run_home drawing looping commotion).2 _ _ hcomes
  refine ⟨hcomes, hstopped hstalls, ?_, hshows.marked.trans (by cbv)⟩
  obtain ⟨o, ho, hchildren⟩ := hshows.readout
  exact ⟨o, ho, hchildren.trans (by cbv)⟩

end Page

end Retrace
