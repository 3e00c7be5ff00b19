/-!
The elements of a page.
-/

namespace Retrace

/-- A text, or an element with its attributes and what it holds. -/
inductive Markup where
  | text (s : String)
  | element (tag : String) (attributes : List (String × String)) (children : List Markup)

namespace Markup

/-- An element that only has a class. -/
def classed (tag cls : String) (children : List Markup) : Markup :=
  element tag [("class", cls)] children

/-- An element without attributes that holds a text. -/
def plain (tag content : String) : Markup := element tag [] [text content]

end Markup

end Retrace
