/-!
# Operators and connectors

The closed vocabularies of queries: how a condition compares its field with a value, how conditions
are connected, and the kinds of joins, combinations and recursive walks. `Comparison.negate` is the
logical complement of a comparison, `Comparison.swap` keeps the meaning when both sides change
places. Each word of a vocabulary has a `name`, under which it stands in serialized queries, and
comparisons and connectors have a `symbol` for the text of a query.
-/

namespace RecordQuery

/-- How a condition compares its field. -/
inductive Comparison
  | equal
  | notEqual
  | lessThan
  | lessThanOrEqual
  | greaterThan
  | greaterThanOrEqual
  | isIn
  | notIn
  | like
  | notLike
  | beginLike
  | notBeginLike
  | endLike
  | notEndLike
  | isNull
  | notNull
  deriving DecidableEq, Repr

namespace Comparison

/-- Every comparison. -/
def all : List Comparison :=
  [equal, notEqual, lessThan, lessThanOrEqual, greaterThan, greaterThanOrEqual, isIn, notIn, like,
   notLike, beginLike, notBeginLike, endLike, notEndLike, isNull, notNull]

/-- The logical complement. -/
def negate : Comparison → Comparison
  | equal => notEqual
  | notEqual => equal
  | lessThan => greaterThanOrEqual
  | lessThanOrEqual => greaterThan
  | greaterThan => lessThanOrEqual
  | greaterThanOrEqual => lessThan
  | isIn => notIn
  | notIn => isIn
  | like => notLike
  | notLike => like
  | beginLike => notBeginLike
  | notBeginLike => beginLike
  | endLike => notEndLike
  | notEndLike => endLike
  | isNull => notNull
  | notNull => isNull

/-- The comparison with the same meaning once both sides have changed places. -/
def swap : Comparison → Comparison
  | lessThan => greaterThan
  | lessThanOrEqual => greaterThanOrEqual
  | greaterThan => lessThan
  | greaterThanOrEqual => lessThanOrEqual
  | other => other

/-- Whether the comparison denies another one. The orderings do not count. -/
def isNegative : Comparison → Bool
  | notEqual | notIn | notLike | notBeginLike | notEndLike | notNull => true
  | _ => false

/-- Whether the comparison is about null alone and takes no value. -/
def isNullTest : Comparison → Bool
  | isNull | notNull => true
  | _ => false

/-- The comparison in the text of a query. -/
def symbol : Comparison → String
  | equal => "="
  | notEqual => "<>"
  | lessThan => "<"
  | lessThanOrEqual => "<="
  | greaterThan => ">"
  | greaterThanOrEqual => ">="
  | isIn => "IN"
  | notIn => "NOT IN"
  | like => "LIKE"
  | notLike => "NOT LIKE"
  | beginLike => "BEGIN LIKE"
  | notBeginLike => "NOT BEGIN LIKE"
  | endLike => "END LIKE"
  | notEndLike => "NOT END LIKE"
  | isNull => "IS NULL"
  | notNull => "IS NOT NULL"

/-- The comparison in a serialized query. -/
def name : Comparison → String
  | equal => "Equal"
  | notEqual => "NotEqual"
  | lessThan => "LessThan"
  | lessThanOrEqual => "LessThanOrEqual"
  | greaterThan => "GreaterThan"
  | greaterThanOrEqual => "GreaterThanOrEqual"
  | isIn => "In"
  | notIn => "NotIn"
  | like => "Like"
  | notLike => "NotLike"
  | beginLike => "BeginLike"
  | notBeginLike => "NotBeginLike"
  | endLike => "EndLike"
  | notEndLike => "NotEndLike"
  | isNull => "IsNull"
  | notNull => "NotNull"

theorem negate_negate (op : Comparison) : op.negate.negate = op := by
  cases op <;> rfl

theorem swap_swap (op : Comparison) : op.swap.swap = op := by
  cases op <;> rfl

end Comparison

/-- How an entry is connected with everything before it. -/
inductive Connector
  | and
  | or
  deriving DecidableEq, Repr

namespace Connector

/-- The connector in the text of a query. -/
def symbol : Connector → String
  | and => "AND"
  | or => "OR"

/-- The connector in a serialized query. -/
def name : Connector → String
  | and => "And"
  | or => "Or"

/-- What two conditions make together. -/
def join : Connector → Bool → Bool → Bool
  | and, a, b => a && b
  | or, a, b => a || b

end Connector

/-- Which rows a join keeps. -/
inductive JoinKind
  | inner
  | left
  | right
  | full
  | cross
  deriving DecidableEq, Repr

/-- The name of a kind of join. -/
def JoinKind.name : JoinKind → String
  | inner => "Inner"
  | left => "Left"
  | right => "Right"
  | full => "Full"
  | cross => "Cross"

/-- How a join compares its paired fields. -/
inductive JoinOperator
  | equal
  | notEqual
  | lessThan
  | lessThanOrEqual
  | greaterThan
  | greaterThanOrEqual
  deriving DecidableEq, Repr

/-- The name of a comparison of joined fields. -/
def JoinOperator.name : JoinOperator → String
  | equal => "Equal"
  | notEqual => "NotEqual"
  | lessThan => "LessThan"
  | lessThanOrEqual => "LessThanOrEqual"
  | greaterThan => "GreaterThan"
  | greaterThanOrEqual => "GreaterThanOrEqual"

/-- How the results of two queries are combined. -/
inductive CombineKind
  | union
  | unionAll
  | except
  | intersect
  deriving DecidableEq, Repr

/-- The name of a kind of combination. -/
def CombineKind.name : CombineKind → String
  | union => "Union"
  | unionAll => "UnionAll"
  | except => "Except"
  | intersect => "Intersect"

/-- Which way a recursive query walks its hierarchy. -/
inductive Direction
  /-- Toward the root. -/
  | up
  /-- Toward the leaves. -/
  | down
  deriving DecidableEq, Repr

/-- The name of a direction. -/
def Direction.name : Direction → String
  | up => "Up"
  | down => "Down"

end RecordQuery
