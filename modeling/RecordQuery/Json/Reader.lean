import RecordQuery.Decimal.Digits
import RecordQuery.Json.Basic
import RecordQuery.Json.Source

/-!
# Reading JSON

`Json.parse?` reads a text as a JSON tree. Beyond the grammar a text must nest less than 128 deep,
pair its surrogate escapes and hold no float out of range.

Whole numbers of up to 64 bits are kept exactly. A float is read from as many leading digits as fit
in 64 bits: the others only move the point, and then one multiplication or division by a power of
ten gives the value (`scaleFloat?`), which may be a unit off the nearest float.
-/

namespace RecordQuery.Json

/-- The bound on the whole numbers that are kept exactly. -/
def wordSize : Nat := UInt64.size

/-- Reads leading digits after the number `n` as long as the number fits in a word, and returns it
with the digits that are left. -/
def leadingDigits (n : Nat) : List Char → Nat × List Char
  | [] => (n, [])
  | d :: ds =>
    let next := n * 10 + Decimal.digitValue d
    if next < wordSize then leadingDigits next ds else (n, d :: ds)

/-- The largest power of ten by which a float is scaled in one step. -/
def maxScale : Nat := 308

/-- `10 ^ e` as a float. -/
def powerOfTen (e : Nat) : Float :=
  Float.ofScientific 1 false e

/-- `x * 10 ^ e`, or nothing if that is too large. -/
def scaleFloat? (x : Float) (e : Int) : Option Float :=
  if maxScale < e then
    if x == 0 then some x else none
  else if 0 ≤ e then
    let y := x * powerOfTen e.toNat
    if y.isInf then none else some y
  else if -maxScale ≤ e then some (x / powerOfTen (-e).toNat)
  else if x == 0 then some x
  else scaleFloat? (x / powerOfTen maxScale) (e + maxScale)
  termination_by (-e).toNat
  decreasing_by simp only [maxScale] at *; omega

/-- The bound on exponents, above which a number is out of range or zero without further ado. -/
def maxExponent : Nat := 2147483647

/-- The absolute value of a float, from its leading digits, the power of ten of the last of them and
its written exponent. -/
def floatOfParts? (digits : Nat) (point : Int) (exponent : Option (Bool × List Char)) : Option Float :=
  match exponent with
  | none => scaleFloat? (Float.ofNat digits) point
  | some (negative, ds) =>
    let e := Decimal.value ds
    if maxExponent < e then
      if negative || digits = 0 then some 0 else none
    else scaleFloat? (Float.ofNat digits) (point + if negative then -(e : Int) else e)

/-- The number that a numeral stands for. A number without point and exponent is whole if it fits in
a word, with its sign, and is not the negative zero. -/
def Numeral.toJson? (n : Numeral) : Option Json :=
  let (first, left) := leadingDigits 0 n.whole
  let sign : Float → Json := fun x => .float (if n.negative then -x else x)
  if left = [] ∧ n.fraction = [] ∧ n.exponent = none then
    if n.negative then
      if 0 < first ∧ Int64.minValue.toInt ≤ -first then some (.whole (-first))
      else some (sign (Float.ofNat first))
    else some (.whole first)
  else
    let (digits, unread) := leadingDigits first n.fraction
    (floatOfParts? digits ((left.length : Int) - (n.fraction.length - unread.length : Nat)) n.exponent).map
      sign

/-- The value of a hexadecimal digit. -/
def hexValue (c : Char) : Nat :=
  if c.toNat < 'A'.toNat then c.toNat - '0'.toNat
  else if c.toNat < 'a'.toNat then c.toNat - 'A'.toNat + 10
  else c.toNat - 'a'.toNat + 10

/-- The unit that four hexadecimal digits stand for. -/
def hexUnit (a b c d : Char) : Nat :=
  ((hexValue a * 16 + hexValue b) * 16 + hexValue c) * 16 + hexValue d

/-- The character of a short escape. -/
def shortEscape (c : Char) : Char :=
  if c = 'b' then Char.ofNat 8
  else if c = 'f' then Char.ofNat 12
  else if c = 'n' then '\n'
  else if c = 'r' then '\r'
  else if c = 't' then '\t'
  else c

/-- The text that the body of a string stands for. A character beyond the first 65536 is escaped as a
pair of surrogates, and a surrogate has no meaning alone. -/
def unescape? : List Char → Option (List Char)
  | [] => some []
  | '\\' :: 'u' :: a :: b :: c :: d :: rest =>
    let unit := hexUnit a b c d
    if unit < 0xD800 ∨ 0xDFFF < unit then (unescape? rest).map (Char.ofNat unit :: ·)
    else match rest with
      | '\\' :: 'u' :: a' :: b' :: c' :: d' :: rest =>
        let second := hexUnit a' b' c' d'
        if unit < 0xDC00 ∧ 0xDC00 ≤ second ∧ second ≤ 0xDFFF then
          (unescape? rest).map
            (Char.ofNat (0x10000 + (unit - 0xD800) * 0x400 + (second - 0xDC00)) :: ·)
        else none
      | _ => none
  | '\\' :: c :: rest => (unescape? rest).map (shortEscape c :: ·)
  | c :: rest => (unescape? rest).map (c :: ·)

/-- The text that the body of a string stands for. -/
def stringOf? (body : List Char) : Option String :=
  (unescape? body).map String.ofList

/-- The nesting that no text may reach. -/
def maxDepth : Nat := 128

mutual

/-- The tree of a source inside which less than `depth` levels may open. -/
def Source.toJson? (depth : Nat) : Source → Option Json
  | .null => some .null
  | .bool b => some (.bool b)
  | .number n => n.toJson?
  | .string body => (stringOf? body).map .string
  | .array items => if depth ≤ 1 then none else (itemsToJson? (depth - 1) items).map .array
  | .object members => if depth ≤ 1 then none else (membersToJson? (depth - 1) members).map .object

/-- The trees of the items of an array. -/
def itemsToJson? (depth : Nat) : List Source → Option (List Json)
  | [] => some []
  | x :: xs =>
    match x.toJson? depth, itemsToJson? depth xs with
    | some j, some js => some (j :: js)
    | _, _ => none

/-- The trees of the members of an object. -/
def membersToJson? (depth : Nat) : List (List Char × Source) → Option (List (String × Json))
  | [] => some []
  | (name, x) :: rest =>
    match stringOf? name, x.toJson? depth, membersToJson? depth rest with
    | some n, some j, some js => some ((n, j) :: js)
    | _, _, _ => none

end

/-- The tree of a JSON text. -/
def parse? (text : String) : Option Json :=
  (Source.read? text).bind (·.toJson? maxDepth)

end RecordQuery.Json
