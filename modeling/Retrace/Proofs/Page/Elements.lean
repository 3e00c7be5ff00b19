import Mathlib.Tactic.Lemma
import Retrace.Page.Viewer

/-!
What can be seen on a page.

A page is looked at through its elements of a class, wherever they stand:

* `Markup.withClass`: the elements of a class, in the order of the page; `withClass_append` and
  `withClass_element` take the page apart;
* `ListedRow`: what a row of the listing shows; `ListedRow.read?_renderRow`;
* `Viewer.withClass_slider`, `Viewer.withClass_readout`, `Viewer.withClass_table`,
  `Viewer.withClass_marked`: what the viewer renders, class by class.
-/

namespace Retrace

namespace Markup

mutual

/-- The elements of a markup, each before the elements inside it. -/
def elements : Markup → List Markup
  | .text _ => []
  | .element tag attributes children => .element tag attributes children :: elementsOf children

/-- The elements of several markups. -/
def elementsOf : List Markup → List Markup
  | [] => []
  | m :: more => elements m ++ elementsOf more

end

/-- The value of an attribute. -/
def attribute? (key : String) : Markup → Option String
  | .text _ => none
  | .element _ attributes _ => attributes.lookup key

/-- What an element holds. -/
def children : Markup → List Markup
  | .text _ => []
  | .element _ _ children => children

/-- The elements of a page that have a class. -/
def withClass (cls : String) (page : List Markup) : List Markup :=
  (elementsOf page).filter fun m => m.attribute? "class" = some cls

variable {cls : String}

@[simp] lemma withClass_nil : withClass cls [] = [] := rfl

@[simp] lemma withClass_append (page more : List Markup) :
    withClass cls (page ++ more) = withClass cls page ++ withClass cls more := by
  have happend : ∀ page more, elementsOf (page ++ more) = elementsOf page ++ elementsOf more := by
    intro page more
    induction page with
    | nil => rfl
    | cons m page ih => simp [elementsOf, ih]
  rw [withClass, happend, List.filter_append]
  rfl

lemma withClass_cons (m : Markup) (page : List Markup) :
    withClass cls (m :: page) = withClass cls [m] ++ withClass cls page :=
  withClass_append [m] page

@[simp] lemma withClass_text (s : String) (page : List Markup) :
    withClass cls (.text s :: page) = withClass cls page := by
  simp [withClass, elementsOf, elements]

@[simp] lemma withClass_element (tag : String) (attributes : List (String × String))
    (children page : List Markup) :
    withClass cls (.element tag attributes children :: page)
      = (if attributes.lookup "class" = some cls then [.element tag attributes children] else [])
        ++ withClass cls children ++ withClass cls page := by
  by_cases h : attributes.lookup "class" = some cls <;>
    simp [withClass, elementsOf, elements, attribute?, h]

@[simp] lemma withClass_classed (tag own : String) (children page : List Markup) :
    withClass cls (classed tag own children :: page)
      = (if own = cls then [classed tag own children] else []) ++ withClass cls children
        ++ withClass cls page := by
  simp [classed]

@[simp] lemma withClass_plain (tag content : String) (page : List Markup) :
    withClass cls (plain tag content :: page) = withClass cls page := by
  simp [plain]

/-- Markups without elements of a class have none of it together. -/
lemma withClass_map_eq_nil {α : Type} {f : α → Markup} (h : ∀ a, withClass cls [f a] = [])
    (l : List α) : withClass cls (l.map f) = [] := by
  induction l with
  | nil => rfl
  | cons a l ih => rw [List.map_cons, withClass_cons, h, ih, List.append_nil]

end Markup

/-! ### The listing -/

/-- What a row of the listing shows. -/
structure ListedRow where
  id : String
  number : String
  content : String
  /-- The line carries the class of the marked line. -/
  marked : Bool
  deriving DecidableEq

namespace ListedRow

/-- The row that a markup stands for. -/
def read? : Markup → Option ListedRow
  | .element "tr" [("id", id)] [.element "td" _ [.text number],
      .element "td" _ [.element "pre" attributes [.text content]]] =>
    some ⟨id, number, content, attributes.lookup "class" = some "marked-source-line"⟩
  | _ => none

/-- The row of a numbered line, when some line is marked. -/
def ofLine (marked : Option UInt32) (row : Nat × String) : ListedRow :=
  ⟨Listing.rowId row.1, toString row.1, row.2, marked.map (·.toNat) = some row.1⟩

lemma read?_renderRow (marked : Option UInt32) (row : Nat × String) :
    read? (Listing.renderRow marked row) = some (ofLine marked row) := by
  by_cases h : marked.map (·.toNat) = some row.1 <;>
    simp [Listing.renderRow, Markup.classed, read?, ofLine, h]

end ListedRow

namespace Listing

open Markup

variable (l : Listing) (marked : Option UInt32)

lemma withClass_renderPicker {cls : String} (h : cls ≠ "source-picker") :
    withClass cls l.renderPicker = [] := by
  rw [renderPicker]
  split
  · have hoption : ∀ x : SourceFile × Nat, withClass cls
        [.element "option" [("value", toString x.2)] [.text x.1.name]] = [] := by
      intro x
      simp
    rw [withClass_classed, withClass_map_eq_nil hoption, if_neg (Ne.symm h)]
    rfl
  · rfl

/-- The marked lines of some rows. -/
lemma withClass_rows (rows : List (Nat × String)) :
    withClass "marked-source-line" (rows.map (renderRow marked))
      = (rows.filter fun row => marked.map (·.toNat) = some row.1).map fun row =>
          .classed "pre" "marked-source-line" [.text row.2] := by
  induction rows with
  | nil => rfl
  | cons row rows ih =>
      rw [List.map_cons, withClass_cons, ih]
      by_cases h : marked.map (·.toNat) = some row.1
      · rw [List.filter_cons_of_pos (by rw [h, decide_eq_true rfl])]
        simp [renderRow, classed, h]
      · rw [List.filter_cons_of_neg (by rw [decide_eq_true_eq]; exact h)]
        simp [renderRow, classed, h]

lemma withClass_renderRow {cls : String} (hnumber : cls ≠ "line-number")
    (hmarked : cls ≠ "marked-source-line") (row : Nat × String) :
    withClass cls [renderRow marked row] = [] := by
  by_cases h : marked.map (·.toNat) = some row.1 <;>
    simp [renderRow, h, hnumber.symm, hmarked.symm]

lemma withClass_renderTable {cls : String} (htable : cls ≠ "source-table")
    (hnumber : cls ≠ "line-number") (hmarked : cls ≠ "marked-source-line") :
    withClass cls (l.renderTable marked) = [] := by
  rw [renderTable]
  split
  · rw [withClass_classed, withClass_map_eq_nil (withClass_renderRow marked hnumber hmarked),
      if_neg htable.symm]
    rfl
  · rfl

end Listing

/-! ### The viewer -/

namespace Viewer

open Markup

variable (v : Viewer)

lemma withClass_render {cls : String}
    (hown : cls ∉ ["replay-viewer", "sidebar-left", "source-panel", "splitter", "graph-pane",
      "graph-container", "arg-graph-canvas"]) :
    withClass cls [v.render] = withClass cls v.listing.renderPicker
      ++ withClass cls (v.listing.renderTable v.display.markedLine)
      ++ withClass cls [Controls.render v.display.slider] := by
  simp only [List.mem_cons, List.not_mem_nil, or_false, not_or] at hown
  obtain ⟨h1, h2, h3, h4, h5, h6, h7⟩ := hown
  rw [render, Listing.render]
  simp only [withClass_classed]
  rw [withClass_cons (Controls.render _)]
  simp [Ne.symm h1, Ne.symm h2, Ne.symm h3, Ne.symm h4, Ne.symm h5, Ne.symm h6, Ne.symm h7]

lemma withClass_slider :
    withClass "step-slider" [v.render] = [.element "input" [
      ("type", "range"), ("class", "step-slider"), ("min", toString v.display.slider.min),
      ("max", toString v.display.slider.max),
      ("prop:value", toString v.display.slider.value)] []] := by
  rw [withClass_render v (by decide), Listing.withClass_renderPicker _ (by decide),
    Listing.withClass_renderTable _ _ (by decide) (by decide) (by decide)]
  simp [Controls.render, List.lookup_cons]

lemma withClass_readout :
    withClass "step-readout" [v.render]
      = [.classed "span" "step-readout" [.text (Controls.readout v.display.slider)]] := by
  rw [withClass_render v (by decide), Listing.withClass_renderPicker _ (by decide),
    Listing.withClass_renderTable _ _ (by decide) (by decide) (by decide)]
  simp [Controls.render, List.lookup_cons]

lemma withClass_table :
    withClass "source-table" [v.render] = v.listing.renderTable v.display.markedLine := by
  rw [withClass_render v (by decide), Listing.withClass_renderPicker _ (by decide),
    Listing.renderTable]
  cases v.listing.file? with
  | none => simp [Controls.render, List.lookup_cons]
  | some f =>
      rw [withClass_classed,
        withClass_map_eq_nil (Listing.withClass_renderRow _ (by decide) (by decide))]
      simp [Controls.render, List.lookup_cons]

lemma withClass_marked :
    withClass "marked-source-line" [v.render]
      = (v.listing.rows.filter fun row => v.display.markedLine.map (·.toNat) = some row.1).map
          fun row => .classed "pre" "marked-source-line" [.text row.2] := by
  rw [withClass_render v (by decide), Listing.withClass_renderPicker _ (by decide),
    Listing.renderTable, Listing.rows]
  cases v.listing.file? with
  | none => simp [Controls.render, List.lookup_cons]
  | some f =>
      rw [withClass_classed, Listing.withClass_rows]
      simp [Controls.render, List.lookup_cons]

end Viewer

end Retrace
