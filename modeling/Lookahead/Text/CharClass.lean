/-!
# Classes of characters

Character classes of the Unicode standard are tables of closed ranges.  A table
is kept in ascending order, so that a search can stop early.  The blanks, which
separate symbols and fill empty lines, are such a class.
-/

namespace Lookahead.Text

/-- Closed ranges of code points, ascending and disjoint. -/
abbrev Ranges := List (Nat × Nat)

namespace Ranges

/-- Whether a code point lies in one of the ranges.  The search stops at the
first range that begins after the code point. -/
def includes : Ranges → Nat → Bool
  | [], _ => false
  | (low, high) :: rest, code =>
      if code < low then false
      else if code ≤ high then true
      else includes rest code

end Ranges

/-- The code points with the property `White_Space`. -/
def blankRanges : Ranges :=
  [(0x0009, 0x000D), (0x0020, 0x0020), (0x0085, 0x0085), (0x00A0, 0x00A0), (0x1680, 0x1680),
   (0x2000, 0x200A), (0x2028, 0x2029), (0x202F, 0x202F), (0x205F, 0x205F), (0x3000, 0x3000)]

/-- Whether a character is a blank. -/
def isBlank (char : Char) : Bool :=
  blankRanges.includes char.toNat

end Lookahead.Text
