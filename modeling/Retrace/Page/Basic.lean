import Retrace.Page.Viewer

/-!
The pages of the program: the viewer of a report, what is shown in place of one that cannot be
read, and the page for any other address.

* `Page.home`: the page at the home address;
* `Viewer.turn`: what an event does to the viewer; `Page.respond`: the response of a page;
* `Page.render`: the page as markup.
-/

namespace Retrace

/-- A page. -/
inductive Page where
  | viewer (v : Viewer)
  | failed (e : ReportError)
  | notFound

/-- What happens on a page. -/
inductive PageEvent where
  /-- The button with this text is clicked. -/
  | click (button : String)
  /-- The slider is moved, and its value has this text. -/
  | slide (value : String)
  /-- A file is picked, and its place has this text. -/
  | pick (value : String)
  | gesture (g : Gesture)
  /-- Animation frames pass. -/
  | frames (n : Nat)
  /-- The window has a new size. -/
  | windowResized
  /-- Something else around the page has changed. -/
  | elsewhere

/-- What an event leads to. -/
structure Response where
  page : Page
  /-- Something on the page, or the page itself, has taken the event. -/
  taken : Bool
  effects : List Effect
  log : List LogLine
  /-- The fault that the event has ended with, if it has; the page goes on. -/
  fault : Option SimulationFault

/-- An event on the viewer. -/
def Viewer.turn (v : Viewer) (b : Browser) : PageEvent → Turn
  | .click button =>
    match Controls.buttonAction v.fullGraph button with
    | some a => v.act a
    | none => { viewer := v, taken := false }
  | .slide value =>
    match Controls.parseNumber value with
    | some step => v.act (.advanceTo step)
    | none => { viewer := v }
  | .pick value =>
    if v.listing.hasPicker then
      match Controls.parseNumber value with
      | some selected => v.pick selected
      | none => { viewer := v }
    else { viewer := v, taken := false }
  | .gesture g => v.gesture b g
  | .frames n => v.frames b n
  | .windowResized => v.windowResized b
  | .elsewhere => { viewer := v }

namespace Page

/-- The page at the home address, over the report if one was provided. -/
def home (b : Browser) (report : Option (Except ReportError Report)) :
    Page × List Effect × List LogLine :=
  match report.getD (.error (.missing .graph)) with
  | .error e => (.failed e, [], [])
  | .ok r =>
    let (v, effects, log) := Viewer.mount b r
    (.viewer v, effects, log)

/-- Whether a page without the viewer takes the event: only what happens around the page. -/
def takesWithoutViewer : PageEvent → Bool
  | .frames _ | .windowResized | .elsewhere => true
  | .click _ | .slide _ | .pick _ | .gesture _ => false

/-- The response of a page to an event: first what the event does, then what the listing does about
it. -/
def respond (b : Browser) (p : Page) (x : PageEvent) : Response :=
  match p with
  | .viewer v =>
    let t := v.turn b x
    ⟨.viewer t.viewer, t.taken, t.effects ++ t.viewer.scrollAfter b t.pushes, t.log, t.fault⟩
  | p => ⟨p, takesWithoutViewer x, [], [], none⟩

/-- The response of a page, for a caller who goes on only as long as no event ends with a fault. -/
def handle (b : Browser) (p : Page) (x : PageEvent) : Except SimulationFault Response :=
  let response := p.respond b x
  match response.fault with
  | some f => .error f
  | none => .ok response

/-- The page as markup. -/
def render : Page → List Markup
  | .viewer v => [v.render]
  | .failed e => [
    .plain "h1" "Uh oh! The report could not be loaded.",
    .plain "p" "Errors: ",
    .element "ul" [] [.plain "li" e.message]]
  | .notFound => [
    .classed "div" "not-found" [
      .plain "h1" "Page not found",
      .plain "p" "The report viewer lives at the root of this page."]]

end Page

end Retrace
