/-!
White space, the Unicode property: the ASCII blanks, the Latin-1 next-line and no-break space, and
the wider spaces and separators.  `isBlankText` holds of a text with nothing else in it.
-/

namespace Retrace.Text

/-- The ranges of white space, both ends included. -/
def blankRanges : List (Nat × Nat) := [
  (0x9, 0xd), (0x20, 0x20), (0x85, 0x85), (0xa0, 0xa0), (0x1680, 0x1680), (0x2000, 0x200a),
  (0x2028, 0x2029), (0x202f, 0x202f), (0x205f, 0x205f), (0x3000, 0x3000)]

/-- Whether the character is white space. -/
def isBlank (c : Char) : Bool :=
  blankRanges.any fun (first, last) => first ≤ c.toNat && c.toNat ≤ last

/-- Whether the text holds nothing but white space. -/
def isBlankText (s : String) : Bool :=
  s.toList.all isBlank

end Retrace.Text
