/-!
# Character ranges and blanks

A character property is a list of code point ranges, both ends included.  The
blanks are the characters with Unicode's `White_Space` property: the line and
paragraph separators and the wide spaces are among them, the zero-width
characters are not.  `trim` drops blanks at both ends and nothing else.
-/

namespace ClusterOperator.Text

/-- Whether the code point of `c` lies in one of the ranges. -/
def inRanges (ranges : List (Nat × Nat)) (c : Char) : Bool :=
  ranges.any fun r => decide (r.1 ≤ c.toNat) && decide (c.toNat ≤ r.2)

/-- The code points with the property `White_Space`. -/
def blankRanges : List (Nat × Nat) :=
  [(0x9, 0xd), (0x20, 0x20), (0x85, 0x85), (0xa0, 0xa0), (0x1680, 0x1680), (0x2000, 0x200a),
   (0x2028, 0x2029), (0x202f, 0x202f), (0x205f, 0x205f), (0x3000, 0x3000)]

/-- Whether `c` is a blank. -/
def isBlank (c : Char) : Bool := inRanges blankRanges c

/-- The characters after the leading blanks. -/
def trimStart (s : List Char) : List Char := s.dropWhile isBlank

/-- The characters between the leading and the trailing blanks. -/
def trim (s : List Char) : List Char := (trimStart (trimStart s).reverse).reverse

end ClusterOperator.Text
