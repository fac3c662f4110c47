import RecordQuery.Expr.Eval
import RecordQuery.Operator

/-!
# Conditions

A `Condition` compares a field with a value. The value is given by an `Operand`, which may be a literal,
an expression still to be evaluated or a producer still to be run. It is read once: `Condition.read`
keeps what it found, and copies of a read condition have the value too.
-/

namespace RecordQuery

/-- A named conversion of a field, for whoever executes the query. -/
structure Converter where
  name : String
  parameter : Option Value := none

/-- A converter as JSON. -/
def Converter.toJson (c : Converter) : Json :=
  .object [("name", .string c.name), ("parameter", .ofOption Value.toJson c.parameter)]

/-- What a condition compares its field with, before it is read. -/
inductive Operand where
  | literal (v : Value)
  /-- An expression, whose value is null if it has none. -/
  | expression (e : Expr)
  /-- A producer, by what it yields on each of its runs. -/
  | lazy (produce : Nat → Value)

namespace Operand

/-- The operand of an expression. A constant is a literal. -/
def ofExpr : Expr → Operand
  | .constant v => literal v
  | e => expression e

/-- The value found by reading the operand when its producer, if it has one, has run `runs` times. -/
def valueAfter (runs : Nat) : Operand → Value
  | literal v => v
  | expression e => e.evaluate.getD .null
  | lazy produce => produce runs

/-- How often reading the operand runs its producer. -/
def cost : Operand → Nat
  | lazy _ => 1
  | _ => 0

end Operand

/-- A comparison of a field with a value. -/
structure Condition where
  field : String
  operator : Comparison
  operand : Operand
  /-- The value, once it has been read. -/
  resolved : Option Value := none
  converter : Option Converter := none

namespace Condition

/-- The value that the condition has, or would be read as after `runs` runs of its producer. -/
def valueAfter (c : Condition) (runs : Nat) : Value :=
  c.resolved.getD (c.operand.valueAfter runs)

/-- The value that the condition has, or would be read as on the first run of its producer. -/
def value (c : Condition) : Value :=
  c.valueAfter 0

/-- Reads the value after `runs` runs of the producer, and keeps it. Returns the runs so far too. -/
def read (c : Condition) (runs : Nat) : Condition × Nat :=
  match c.resolved with
  | some _ => (c, runs)
  | none => ({ c with resolved := some (c.operand.valueAfter runs) }, runs + c.operand.cost)

/-- Whether the text of the condition shows its value. -/
def showsValue (c : Condition) : Bool :=
  !c.operator.isNullTest

/-- The condition as text. -/
def text (c : Condition) : String :=
  if c.showsValue then c.field ++ " " ++ c.operator.symbol ++ " " ++ c.value.text
  else c.field ++ " " ++ c.operator.symbol

/-- The condition as JSON. -/
def toJson (c : Condition) : Json :=
  .object
    [("name", .string c.field), ("operator", .string c.operator.name), ("value", c.value.toJson),
     ("converter", .ofOption Converter.toJson c.converter)]

/-- The condition with its value read, and with equality to null written as a test for null. -/
def settled (c : Condition) : Condition :=
  let c := (c.read 0).1
  match c.operator, c.value with
  | .equal, .null => { c with operator := .isNull }
  | .notEqual, .null => { c with operator := .notNull }
  | _, _ => c

end Condition

end RecordQuery
