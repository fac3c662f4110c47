/-!
# Whole numbers in decimal

`digits` writes a number without leading zeros and `value` reads any row of digits.
-/

namespace RecordQuery.Decimal

/-- The sign of a digit below ten. -/
def digitChar (d : Nat) : Char :=
  Char.ofNat ('0'.toNat + d)

/-- The number that a digit stands for. -/
def digitValue (c : Char) : Nat :=
  c.toNat - '0'.toNat

/-- A number in decimal, without leading zeros. -/
def digits (n : Nat) : List Char :=
  if n < 10 then [digitChar n] else digits (n / 10) ++ [digitChar (n % 10)]

/-- The number that a row of digits stands for, read after the number `n`. -/
def valueFrom (n : Nat) (cs : List Char) : Nat :=
  cs.foldl (fun acc c => acc * 10 + digitValue c) n

/-- The number that a row of digits stands for. -/
def value (cs : List Char) : Nat :=
  valueFrom 0 cs

/-- A number in decimal. -/
def natText (n : Nat) : String :=
  String.ofList (digits n)

/-- A number in decimal, with a sign in front when it is negative. -/
def intText (n : Int) : String :=
  if n < 0 then "-" ++ natText n.natAbs else natText n.natAbs

end RecordQuery.Decimal
