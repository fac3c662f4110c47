import RecordQuery.Fields

/-!
# Values

The values that records hold and conditions compare with. `Value` lists their kinds. The functions
here look at the kind of a value and take out what it holds. Order and equality are in
`Value.Order`, the text of a value in `Value.Text`.
-/

namespace RecordQuery

/-- A whole number as a 64-bit integer, if it is in range. -/
def int64? (n : Int) : Option Int64 :=
  if Int64.minValue.toInt ≤ n ∧ n ≤ Int64.maxValue.toInt then some (Int64.ofInt n) else none

/-- A dynamically typed value. The entries of a map are in the order of their names. -/
inductive Value where
  | null
  | bool (b : Bool)
  | int (n : Int64)
  | float (x : Float)
  | string (s : String)
  | list (items : List Value)
  | map (entries : List (String × Value))

instance : Inhabited Value := ⟨.null⟩

namespace Value

/-- Whether the value is null. -/
def isNull : Value → Bool
  | null => true
  | _ => false

/-- Whether the value counts as a met condition. Only `true` itself does. -/
def isTrue : Value → Bool
  | bool b => b
  | _ => false

/-- The text of a string. -/
def asString? : Value → Option String
  | string s => some s
  | _ => none

/-- The truth value of a boolean. -/
def asBool? : Value → Option Bool
  | bool b => some b
  | _ => none

/-- The nearest float to a number. -/
def asFloat? : Value → Option Float
  | int n => some (Float.ofInt n.toInt)
  | float x => some x
  | _ => none

/-- The items of a list. -/
def asList? : Value → Option (List Value)
  | list items => some items
  | _ => none

end Value

end RecordQuery
