/-!
# Ranges of code points

A character property is given as the list of the ranges of code points that have
it, in increasing order.
-/

namespace BalineseChart.Text

/-- The code points from `first` to `last`, both included. -/
structure CodeRange where
  first : Nat
  last : Nat
deriving DecidableEq

namespace CodeRange

/-- Whether the range holds a code point. -/
def contains (range : CodeRange) (code : Nat) : Bool :=
  range.first ≤ code && code ≤ range.last

/-- Whether one of the ranges holds the code point of a character. -/
def covers (ranges : List CodeRange) (c : Char) : Bool :=
  ranges.any (·.contains c.toNat)

end CodeRange

end BalineseChart.Text
