/-!
# The shortest decimal that reads back

A finite positive float is `m * 2 ^ q`. The reals that round to it form an interval around it, whose
ends count iff `m` is even. `shortest` looks for the coarsest decimal grid with a point in that
interval, and takes the point nearest to the float. That point has the fewest digits of all
decimals that read back as the float.

All tests are exact: a grid point `d * 10 ^ e` and a quarter unit `x * 2 ^ (q - 2)` are compared as
whole numbers after multiplication by both denominators.
-/

namespace RecordQuery.Decimal

/-- Which of two equally near decimals is taken. -/
inductive Tie
  | up
  | even

/-- The number `digits * 10 ^ exponent`. -/
structure Scaled where
  digits : Nat
  exponent : Int
  deriving DecidableEq

/-- A positive float as `mantissa * 2 ^ exponent`, with `narrow` when the next float below is only
half as far away as the next above. -/
structure Binary where
  mantissa : Nat
  exponent : Int
  narrow : Bool

/-- The parts of the absolute value of a finite float. -/
def Binary.ofFloat (x : Float) : Binary :=
  let bits : Nat := x.toBits.toNat
  let hidden : Nat := 1 <<< 52
  let fraction : Nat := bits % hidden
  let biased : Nat := bits / hidden % 2048
  if biased = 0 then ⟨fraction, -1074, false⟩
  else ⟨fraction + hidden, (biased : Int) - 1075, fraction = 0 ∧ 1 < biased⟩

/-- `base ^ e`, or 1 when `e` is negative. -/
def upPower (base : Nat) (e : Int) : Nat :=
  Nat.pow base e.toNat

/-- Whether the grid point `d * 10 ^ e` rounds to `b`. -/
def Binary.holds (b : Binary) (d : Nat) (e : Int) : Bool :=
  let point := d * upPower 10 e * upPower 2 (2 - b.exponent)
  let unit := upPower 2 (b.exponent - 2) * upPower 10 (-e)
  let low := (4 * b.mantissa - (if b.narrow then 1 else 2)) * unit
  let high := (4 * b.mantissa + 2) * unit
  if b.mantissa % 2 = 0 then low ≤ point && point ≤ high else low < point && point < high

/-- The point of the grid `10 ^ e` that rounds to `b` and is nearest to it. -/
def Binary.onGrid? (b : Binary) (tie : Tie) (e : Int) : Option Scaled :=
  let num := b.mantissa * upPower 2 b.exponent * upPower 10 (-e)
  let den := upPower 10 e * upPower 2 (-b.exponent)
  let below := num / den
  let above := below + 1
  match b.holds below e && 0 < below, b.holds above e with
  | false, false => none
  | true, false => some ⟨below, e⟩
  | false, true => some ⟨above, e⟩
  | true, true =>
    let twice := 2 * (num % den)
    if twice < den then some ⟨below, e⟩
    else if den < twice then some ⟨above, e⟩
    else match tie with
      | .up => some ⟨above, e⟩
      | .even => some ⟨if below % 2 = 0 then below else above, e⟩

/-- The first point found on the grids `10 ^ e`, `10 ^ (e - 1)`, ..., of which `count` are tried. -/
def Binary.search (b : Binary) (tie : Tie) : Nat → Int → Scaled
  | 0, e => ⟨b.mantissa, e⟩
  | count + 1, e =>
    match b.onGrid? tie e with
    | some found => found
    | none => b.search tie count (e - 1)

/-- The shortest decimal that reads back as a finite positive float. No float is above `10 ^ 309`,
and no gap between floats is below `10 ^ -324`. -/
def shortest (tie : Tie) (x : Float) : Scaled :=
  (Binary.ofFloat x).search tie 640 309

end RecordQuery.Decimal
