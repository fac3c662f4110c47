import RecordQuery.Value.Basic

/-!
# Expressions

The body of a lambda such as `x => x.Age > 18 && x.Name.StartsWith("A")` as a tree. `NodeKind` numbers
the kinds of nodes. The numbers decide which of two member accesses in a comparison is the field.
-/

namespace RecordQuery

/-- Operators between two operands. -/
inductive BinaryOp
  | equal
  | notEqual
  | lessThan
  | lessThanOrEqual
  | greaterThan
  | greaterThanOrEqual
  | andAlso
  | orElse
  | add
  | subtract
  | multiply
  | divide
  deriving DecidableEq, Repr

/-- Kinds of nodes. -/
inductive NodeKind
  | add
  | andAlso
  | call
  | constant
  | convert
  | divide
  | equal
  | greaterThan
  | greaterThanOrEqual
  | lessThan
  | lessThanOrEqual
  | memberAccess
  | multiply
  | negate
  | newArrayInit
  | not
  | notEqual
  | orElse
  | parameter
  | subtract
  deriving DecidableEq, Repr

namespace NodeKind

/-- The rank of a kind of node. -/
def ordinal : NodeKind → Nat
  | add => 0
  | andAlso => 3
  | call => 6
  | constant => 9
  | convert => 10
  | divide => 12
  | equal => 13
  | greaterThan => 15
  | greaterThanOrEqual => 16
  | lessThan => 20
  | lessThanOrEqual => 21
  | memberAccess => 23
  | multiply => 26
  | negate => 28
  | newArrayInit => 32
  | not => 34
  | notEqual => 35
  | orElse => 37
  | parameter => 38
  | subtract => 42

end NodeKind

namespace BinaryOp

/-- The kind of a node with this operator. -/
def kind : BinaryOp → NodeKind
  | equal => .equal
  | notEqual => .notEqual
  | lessThan => .lessThan
  | lessThanOrEqual => .lessThanOrEqual
  | greaterThan => .greaterThan
  | greaterThanOrEqual => .greaterThanOrEqual
  | andAlso => .andAlso
  | orElse => .orElse
  | add => .add
  | subtract => .subtract
  | multiply => .multiply
  | divide => .divide

/-- Whether the operator compares two values. -/
def isComparison : BinaryOp → Bool
  | equal | notEqual | lessThan | lessThanOrEqual | greaterThan | greaterThanOrEqual => true
  | _ => false

/-- The operator as written. -/
def symbol : BinaryOp → String
  | equal => "=="
  | notEqual => "!="
  | lessThan => "<"
  | lessThanOrEqual => "<="
  | greaterThan => ">"
  | greaterThanOrEqual => ">="
  | andAlso => "&&"
  | orElse => "||"
  | add => "+"
  | subtract => "-"
  | multiply => "*"
  | divide => "/"

end BinaryOp

/-- An expression. -/
inductive Expr where
  /-- The lambda parameter. -/
  | parameter (name : String)
  | constant (v : Value)
  /-- `target.name` -/
  | member (target : Expr) (name : String)
  /-- A conversion of type, which leaves the value as it is. -/
  | convert (inner : Expr)
  | not (inner : Expr)
  | negate (inner : Expr)
  | binary (op : BinaryOp) (left right : Expr)
  /-- `target.method(args)` -/
  | call (target : Expr) (method : String) (args : List Expr)
  /-- `method(args)` -/
  | staticCall (method : String) (args : List Expr)
  | list (items : List Expr)

instance : Inhabited Expr := ⟨.constant .null⟩

namespace Expr

/-- The kind of the top node. -/
def kind : Expr → NodeKind
  | parameter _ => .parameter
  | constant _ => .constant
  | member .. => .memberAccess
  | convert _ => .convert
  | not _ => .not
  | negate _ => .negate
  | binary op _ _ => op.kind
  | call .. => .call
  | staticCall .. => .call
  | list _ => .newArrayInit

/-- The node at the bottom of a chain of members and conversions: the parameter for
`x.Profile.Age`. -/
def innermost : Expr → Expr
  | member target _ => target.innermost
  | convert inner => inner.innermost
  | e => e

/-- The target and name of a member access, also behind conversions. -/
def asMember? : Expr → Option (Expr × String)
  | member target name => some (target, name)
  | convert inner => inner.asMember?
  | _ => none

mutual

/-- Whether the lambda parameter appears in the expression. -/
def usesParameter : Expr → Bool
  | parameter _ => true
  | constant _ => false
  | member target _ => target.usesParameter
  | convert inner => inner.usesParameter
  | not inner => inner.usesParameter
  | negate inner => inner.usesParameter
  | binary _ left right => left.usesParameter || right.usesParameter
  | call target _ args => target.usesParameter || anyUsesParameter args
  | staticCall _ args => anyUsesParameter args
  | list items => anyUsesParameter items

/-- Whether the lambda parameter appears in one of the expressions. -/
def anyUsesParameter : List Expr → Bool
  | [] => false
  | e :: es => e.usesParameter || anyUsesParameter es

end

end Expr

/-- A condition on one parameter: `parameter => body`. -/
structure Lambda where
  parameter : String
  body : Expr

end RecordQuery
