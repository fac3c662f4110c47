/-!
# Sets of characters given by ranges of code points

A property of characters is kept as the increasing list of the ranges of code points that have it.
`CodeRanges.has` decides membership.
-/

namespace RecordQuery.Text

/-- A set of characters: inclusive ranges of code points, in increasing order. -/
abbrev CodeRanges := List (Nat × Nat)

/-- Whether a code point is in one of the ranges. The search ends at the first range that begins
after it. -/
def CodeRanges.hasCode : CodeRanges → Nat → Bool
  | [], _ => false
  | (first, last) :: more, n => if n < first then false else n ≤ last || hasCode more n

/-- Whether a character is in the set. -/
def CodeRanges.has (ranges : CodeRanges) (c : Char) : Bool :=
  ranges.hasCode c.toNat

end RecordQuery.Text
