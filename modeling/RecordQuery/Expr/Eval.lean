import RecordQuery.Entity
import RecordQuery.Expr.Basic
import RecordQuery.Text.Blank
import RecordQuery.Text.Case
import RecordQuery.Text.Search
import RecordQuery.Value.Order

/-!
# Evaluating expressions

`Expr.eval` computes the value of an expression, with the lambda parameter standing for a record or
for nothing. It has no value where an operation does not apply: arithmetic that leaves 64 bits, a
division by zero, a member or method that the value does not have, the parameter on its own.

Null goes through arithmetic, members and methods, and `&&` and `||` evaluate their right side only if
the left does not decide.
-/

namespace RecordQuery

/-- The tests of one text against another. -/
inductive TextTest
  | begins
  | ends
  | holds
  deriving DecidableEq, Repr

/-- Whether a text passes a test against another. -/
def TextTest.passes : TextTest → String → String → Bool
  | begins, s, part => Text.beginsWith s part
  | ends, s, part => Text.endsWith s part
  | holds, s, part => Text.contains s part

/-- The methods that values have. -/
inductive Method
  | text (test : TextTest)
  | equals
  | toUpper
  | toLower
  | trim
  | count
  deriving DecidableEq, Repr

/-- The method of a name. -/
def Method.named? (name : String) : Option Method :=
  if name = "StartsWith" then some (.text .begins)
  else if name = "EndsWith" then some (.text .ends)
  else if name = "Contains" then some (.text .holds)
  else if name = "Equals" then some .equals
  else if name = "ToUpper" then some .toUpper
  else if name = "ToLower" then some .toLower
  else if name = "Trim" then some .trim
  else if name = "Count" then some .count
  else none

/-- A count as a value. -/
def Value.ofNat (n : Nat) : Value :=
  .int (Int64.ofNat n)

/-- The value of a method called on a value. A text test of anything but two strings fails rather
than having no value, except that `Contains` on a list looks for an item. -/
def Method.call? : Method → Value → List Value → Option Value
  | .equals, .null, [arg] => some (.bool arg.isNull)
  | .text _, .null, [_] => some (.bool false)
  | _, .null, _ => some .null
  | .text test, .string s, [.string part] => some (.bool (test.passes s part))
  | .toUpper, .string s, [] => some (.string (Text.upper s))
  | .toLower, .string s, [] => some (.string (Text.lower s))
  | .trim, .string s, [] => some (.string (Text.trim s))
  | .text .holds, .list items, [item] => some (.bool (item.isIn (.list items)))
  | .count, .list items, [] => some (.ofNat items.length)
  | .text _, _, [_] => some (.bool false)
  | .equals, target, [arg] => some (.bool (target == arg))
  | _, _, _ => none

/-- The value of a method called by name. Every method of null is null. -/
def Value.call? (target : Value) (method : String) (args : List Value) : Option Value :=
  match Method.named? method with
  | some m => m.call? target args
  | none => if target.isNull then some .null else none

/-- The value of a method called on nothing. -/
def Value.staticCall? (method : String) (args : List Value) : Option Value :=
  match Method.named? method, args with
  | some (.text .holds), [.list items, item] => some (.bool (item.isIn (.list items)))
  | _, _ => none

/-- A member of a value: an entry of a map, the length of a string or a list. -/
def Value.member? : Value → String → Option Value
  | .null, _ => some .null
  | .map entries, name => some ((Fields.get? entries name).getD .null)
  | .string s, name => if name = "Length" then some (.ofNat s.length) else none
  | .list items, name =>
    if name = "Length" ∨ name = "Count" then some (.ofNat items.length) else none
  | _, _ => none

/-- Arithmetic on whole numbers. Division drops the fraction. -/
def BinaryOp.onInts? : BinaryOp → Int → Int → Option Int
  | .add, a, b => some (a + b)
  | .subtract, a, b => some (a - b)
  | .multiply, a, b => some (a * b)
  | .divide, a, b => if b = 0 then none else some (a.tdiv b)
  | _, _, _ => none

/-- Arithmetic on floats. -/
def BinaryOp.onFloats? : BinaryOp → Float → Float → Option Float
  | .add, a, b => some (a + b)
  | .subtract, a, b => some (a - b)
  | .multiply, a, b => some (a * b)
  | .divide, a, b => some (a / b)
  | _, _, _ => none

/-- Arithmetic. Strings can be added too. -/
def BinaryOp.arithmetic? (op : BinaryOp) : Value → Value → Option Value
  | .null, _ => some .null
  | _, .null => some .null
  | .int a, .int b => ((op.onInts? a.toInt b.toInt).bind int64?).map .int
  | .string s, .string t => if op = .add then some (.string (s ++ t)) else none
  | a, b =>
    match a.asFloat?, b.asFloat? with
    | some x, some y => (op.onFloats? x y).map .float
    | _, _ => none

/-- Whether two values compare as a comparison operator says. -/
def BinaryOp.compares (op : BinaryOp) (a b : Value) : Bool :=
  match op with
  | .equal => a == b
  | .notEqual => !(a == b)
  | .lessThan => a.compare b == some .lt
  | .lessThanOrEqual => a.compare b == some .lt || a.compare b == some .eq
  | .greaterThan => a.compare b == some .gt
  | .greaterThanOrEqual => a.compare b == some .gt || a.compare b == some .eq
  | _ => false

/-- The value of an operation on two values. -/
def BinaryOp.apply? (op : BinaryOp) (a b : Value) : Option Value :=
  if op.isComparison then some (.bool (op.compares a b)) else op.arithmetic? a b

/-- The opposite of a number. -/
def Value.negate? : Value → Option Value
  | .int n => (int64? (-n.toInt)).map .int
  | .float x => some (.float (-x))
  | .null => some .null
  | _ => none

namespace Expr

mutual

/-- The value of an expression. -/
def eval (record : Option Record) : Expr → Option Value
  | parameter _ => none
  | constant v => some v
  | member target name =>
    match target, record with
    | parameter _, some r => some (Record.value r name)
    | _, _ => (eval record target).bind (·.member? name)
  | convert inner => eval record inner
  | not inner => (eval record inner).map fun v => .bool !v.isTrue
  | negate inner => (eval record inner).bind Value.negate?
  | binary .andAlso left right =>
    match eval record left with
    | none => none
    | some v => if v.isTrue then (eval record right).map fun w => .bool w.isTrue else some (.bool false)
  | binary .orElse left right =>
    match eval record left with
    | none => none
    | some v => if v.isTrue then some (.bool true) else (eval record right).map fun w => .bool w.isTrue
  | binary op left right =>
    match eval record left, eval record right with
    | some a, some b => op.apply? a b
    | _, _ => none
  | call target method args =>
    match evalList record args, eval record target with
    | some vs, some v => v.call? method vs
    | _, _ => none
  | staticCall method args => (evalList record args).bind (Value.staticCall? method)
  | list items => (evalList record items).map .list

/-- The values of expressions, if all have one. -/
def evalList (record : Option Record) : List Expr → Option (List Value)
  | [] => some []
  | e :: es =>
    match eval record e, evalList record es with
    | some v, some vs => some (v :: vs)
    | _, _ => none

end

/-- The value of an expression without a record. -/
def evaluate (e : Expr) : Option Value :=
  e.eval none

/-- The value of an expression with the parameter standing for a record. -/
def evaluateOn (e : Expr) (record : Record) : Option Value :=
  e.eval (some record)

end Expr

/-- Whether a record meets the lambda. Only the value `true` counts. -/
def Lambda.accepts (l : Lambda) (record : Record) : Bool :=
  match l.body.evaluateOn record with
  | some v => v.isTrue
  | none => false

end RecordQuery
