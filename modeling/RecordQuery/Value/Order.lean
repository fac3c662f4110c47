import RecordQuery.Value.Basic

/-!
# Order and equality of values

`Value.compare` orders numbers by size, strings by code points and `false` before `true`. Values of
different kinds have no order, nor do null, lists and maps. Equality is this order's `eq`, carried
through lists and maps, with null equal to itself.

`Value.sortCompare` is for sorting. It puts null first and calls values without an order equal, so
that a stable sort leaves them where they are.
-/

namespace RecordQuery

/-- The order of two floats, if neither is a NaN. -/
def compareFloats (x y : Float) : Option Ordering :=
  if x < y then some .lt
  else if y < x then some .gt
  else if x == y then some .eq
  else none

namespace Value

/-- The order of two values of comparable kinds. -/
def compare : Value → Value → Option Ordering
  | int m, int n => some (Ord.compare m.toInt n.toInt)
  | int m, float y => compareFloats (Float.ofInt m.toInt) y
  | float x, int n => compareFloats x (Float.ofInt n.toInt)
  | float x, float y => compareFloats x y
  | string s, string t => some (Ord.compare s t)
  | bool a, bool b => some (Ord.compare a b)
  | _, _ => none

mutual

/-- Equality of values. A number equals every number of the same size, and a NaN equals nothing. -/
def equal : Value → Value → Bool
  | null, null => true
  | list xs, list ys => equalItems xs ys
  | map xs, map ys => equalEntries xs ys
  | a, b => a.compare b == some .eq

/-- Equality of lists, item by item. -/
def equalItems : List Value → List Value → Bool
  | [], [] => true
  | x :: xs, y :: ys => x.equal y && equalItems xs ys
  | _, _ => false

/-- Equality of maps, entry by entry. -/
def equalEntries : Fields Value → Fields Value → Bool
  | [], [] => true
  | (m, x) :: xs, (n, y) :: ys => m == n && x.equal y && equalEntries xs ys
  | _, _ => false

end

instance : BEq Value := ⟨equal⟩

/-- The order for sorting. -/
def sortCompare : Value → Value → Ordering
  | null, null => .eq
  | null, _ => .lt
  | _, null => .gt
  | a, b => (a.compare b).getD .eq

/-- Whether a value is among the items of a list. Any other value is a collection of itself alone. -/
def isIn (v : Value) : Value → Bool
  | list items => items.any (· == v)
  | other => other == v

end Value

end RecordQuery
