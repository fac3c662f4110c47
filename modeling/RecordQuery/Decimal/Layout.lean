import RecordQuery.Decimal.Digits
import RecordQuery.Decimal.Shortest

/-!
# Floats as text

A `Layout` holds the decisions that a notation for floats makes. The digits are those of
`shortest` in each notation. The examples at the end stand at the borders of the notations.
-/

namespace RecordQuery.Decimal

/-- How floats are written. -/
structure Layout where
  /-- The powers of ten between which the leading digit must lie for a number to be written without
  an exponent. Without bounds no number has an exponent. -/
  positional : Option (Int × Int)
  /-- Whether whole numbers without an exponent end in `.0`. -/
  keepPoint : Bool
  /-- Whether an exponent that is not negative has a plus sign. -/
  plusSign : Bool
  /-- Which of two equally short and equally near decimals is written. -/
  tie : Tie

/-- The notation of values shown to the reader: never an exponent, and no point in whole numbers. -/
def Layout.plain : Layout := ⟨none, false, false, .up⟩

/-- The notation of messages about source text: an exponent below `0.0001` and from `10 ^ 16` on,
and a point in whole numbers. -/
def Layout.source : Layout := ⟨some (-4, 15), true, false, .up⟩

/-- The notation of data files: an exponent, always with a sign, below `0.00001` and from `10 ^ 16`
on, and a point in whole numbers. -/
def Layout.data : Layout := ⟨some (-5, 15), true, true, .even⟩

/-- A row of digits with the point after the first `point` of them, padded with zeros. -/
def Layout.place (layout : Layout) (ds : List Char) (point : Int) : List Char :=
  if point ≤ 0 then '0' :: '.' :: (List.replicate (-point).toNat '0' ++ ds)
  else
    let whole := ds.take point.toNat ++ List.replicate (point.toNat - ds.length) '0'
    match ds.drop point.toNat with
    | [] => if layout.keepPoint then whole ++ ['.', '0'] else whole
    | fraction => whole ++ '.' :: fraction

/-- A row of digits with the point after the first, and the power of ten of that digit. -/
def Layout.scientific (layout : Layout) (ds : List Char) (exponent : Int) : List Char :=
  let plus := if layout.plusSign && 0 ≤ exponent then ['+'] else []
  let power := 'e' :: plus ++ (intText exponent).toList
  match ds with
  | d :: f :: fs => d :: '.' :: f :: fs ++ power
  | ds => ds ++ power

/-- A decimal as text. -/
def Layout.scaled (layout : Layout) (s : Scaled) : List Char :=
  let ds := digits s.digits
  let point := s.exponent + ds.length
  match layout.positional with
  | none => layout.place ds point
  | some (low, high) =>
    if low ≤ point - 1 ∧ point - 1 ≤ high then layout.place ds point
    else layout.scientific ds (point - 1)

/-- A float as text. -/
def Layout.float (layout : Layout) (x : Float) : String :=
  if x.isNaN then "NaN"
  else
    let sign := if x.toBits < 0x8000000000000000 then [] else ['-']
    let body :=
      if x.isInf then ['i', 'n', 'f']
      else if x == 0 then layout.place ['0'] 1
      else layout.scaled (shortest layout.tie x)
    String.ofList (sign ++ body)

/-! ## The three notations at their borders -/

example : Layout.plain.float 1e22 = "10000000000000000000000" := by decide +kernel

example : Layout.plain.float (-0.0) = "-0" := by decide +kernel

example : Layout.source.float 1e15 = "1000000000000000.0" ∧ Layout.source.float 1e16 = "1e16" ∧
    Layout.source.float 0.0001 = "0.0001" ∧ Layout.source.float 0.00001 = "1e-5" := by
  decide +kernel

example : Layout.data.float 0.00001 = "0.00001" ∧ Layout.data.float 0.0000015 = "1.5e-6" ∧
    Layout.data.float 1e15 = "1000000000000000.0" ∧ Layout.data.float 1.25e21 = "1.25e+21" := by
  decide +kernel

/-- A quarter lies halfway between two tenths that both read back as the float. -/
example : Layout.plain.float 1125899906842624.25 = "1125899906842624.3" ∧
    Layout.data.float 1125899906842624.25 = "1125899906842624.2" := by
  decide +kernel

end RecordQuery.Decimal
