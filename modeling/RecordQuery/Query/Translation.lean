import RecordQuery.Query.Build
import RecordQuery.Query.Text

/-!
# From lambdas to conditions

`Lambda.translate` turns a lambda into an entry of a query. It knows comparisons of a field with a
value, `&&` and `||`, the text methods on a field, membership of a field in a list, fields that are
truth values, and `!` before some of these. Each `&&` or `||` becomes a nested query of two entries, and
every other condition becomes one condition. Other expressions are malformed.

When both sides of a comparison are members, the field is the one whose innermost node ranks higher,
the left one if they rank the same. The parameter ranks highest of what can stand there.
-/

namespace RecordQuery

/-- The comparison that an operator stands for with the field on its left. -/
def BinaryOp.comparison : BinaryOp → Comparison
  | .notEqual => .notEqual
  | .lessThan => .lessThan
  | .lessThanOrEqual => .lessThanOrEqual
  | .greaterThan => .greaterThan
  | .greaterThanOrEqual => .greaterThanOrEqual
  | _ => .equal

/-- The comparison that a method of a field stands for. -/
def Method.comparison? : Method → Option Comparison
  | .text .begins => some .beginLike
  | .text .ends => some .endLike
  | .text .holds => some .like
  | .equals => some .equal
  | _ => none

namespace Translation

/-- A translated condition or the fault that prevents it. -/
abbrev Result (α : Type) := Except QueryError α

/-- Fails with a fault of the expression. -/
def fail {α : Type} (fault : Malformed) : Result α :=
  .error (.malformed fault)

/-- Whether an expression looks like a field. -/
def isMember (e : Expr) : Bool :=
  e.asMember?.isSome

/-- The field that an expression names: a direct member of the parameter. -/
def fieldOf (parameter : String) (e : Expr) : Result String :=
  match e.asMember? with
  | some (.parameter p, name) => if p = parameter then .ok name else fail (.notAField e parameter)
  | _ => fail (.notAField e parameter)

/-- The operand that an expression stands for, which the parameter must not appear in. -/
def operandOf (parameter : String) (e : Expr) : Result Operand :=
  if e.usesParameter then fail (.valueUsesParameter e parameter) else .ok (.ofExpr e)

/-- The list that an expression stands for, which the parameter must not appear in. -/
def collectionOf (parameter : String) (e : Expr) : Result Operand :=
  if e.usesParameter then fail (.collectionUsesParameter e parameter)
  else
    match e.evaluate with
    | some (.list items) => .ok (.literal (.list items))
    | _ => fail (.notACollection e)

/-- An entry with one condition. -/
def condition (field : String) (operator : Comparison) (operand : Operand) : Entry Query :=
  ⟨.and, .condition { field, operator, operand }⟩

/-- Whether the field of a comparison is on its left, if either side looks like one. -/
def fieldOnLeft? (left right : Expr) : Option Bool :=
  match isMember left, isMember right with
  | true, true => some (right.innermost.kind.ordinal ≤ left.innermost.kind.ordinal)
  | true, false => some true
  | false, true => some false
  | false, false => none

/-- Translates a comparison. -/
def comparison (parameter : String) (op : BinaryOp) (left right : Expr) : Result (Entry Query) :=
  match fieldOnLeft? left right with
  | none => fail (.noField left right)
  | some true => do
    let field ← fieldOf parameter left
    let operand ← operandOf parameter right
    return condition field op.comparison operand
  | some false => do
    let field ← fieldOf parameter right
    let operand ← operandOf parameter left
    return condition field op.comparison.swap operand

/-- The entry that nests two others. -/
def connective (connector : Connector) (left right : Entry Query) : Result (Entry Query) :=
  let program : Builder Unit := do
    Query.addItem .and left.item
    Query.addItem connector right.item
  match program.run (Query.empty.setCopies false) with
  | .ok _ group => .ok ⟨.and, .tree group⟩
  | .error e _ => .error e

/-- Translates the membership of a field in a list. -/
def membership (parameter : String) (collection item : Expr) : Result (Entry Query) := do
  let field ← fieldOf parameter item
  let operand ← collectionOf parameter collection
  return condition field .isIn operand

/-- Translates a method call. -/
def call (parameter : String) (receiver : Expr) (method : String) (args : List Expr) :
    Result (Entry Query) :=
  match Method.named? method, args with
  | some m, [arg] =>
    match isMember receiver, m.comparison? with
    | true, some operator => do
      let field ← fieldOf parameter receiver
      let operand ← operandOf parameter arg
      return condition field operator operand
    | _, _ =>
      if m = .text .holds then membership parameter receiver arg else fail (.method method)
  | _, _ => fail (.method method)

/-- Translates a method call without receiver. -/
def staticCall (parameter : String) (method : String) (args : List Expr) : Result (Entry Query) :=
  match Method.named? method, args with
  | some (.text .holds), [collection, item] => membership parameter collection item
  | _, _ => fail (.method method)

/-- Negates an entry, which must be one condition. -/
def negate (e : Entry Query) : Result (Entry Query) :=
  match e.item with
  | .condition c => .ok ⟨e.connector, .condition { c with operator := c.operator.negate }⟩
  | .subquery c => .ok ⟨e.connector, .subquery { c with operator := c.operator.negate }⟩
  | .tree q => fail (.groupNotNegatable q.text)

/-- Translates a field that is a truth value by itself. A null field counts as false. -/
def truth (parameter : String) (operator : Comparison) (e : Expr) : Result (Entry Query) := do
  let field ← fieldOf parameter e
  return condition field operator (.literal (.bool true))

/-- Whether `!` before an expression negates the condition that it translates to. -/
def isNegatable : Expr → Bool
  | .call .. => true
  | .staticCall .. => true
  | .binary .equal _ _ => true
  | .binary .notEqual _ _ => true
  | _ => false

/-- Translates a condition on the parameter. -/
def translate (parameter : String) : Expr → Result (Entry Query)
  | .binary .andAlso left right => do
    connective .and (← translate parameter left) (← translate parameter right)
  | .binary .orElse left right => do
    connective .or (← translate parameter left) (← translate parameter right)
  | .binary op left right =>
    if op.isComparison then comparison parameter op left right
    else fail (.notACondition (.binary op left right))
  | .call receiver method args => call parameter receiver method args
  | .staticCall method args => staticCall parameter method args
  | .not (.not e) => translate parameter e
  | .not (.member target name) => truth parameter .notEqual (.member target name)
  | .not (.convert e) => truth parameter .notEqual (.convert e)
  | .not e =>
    if isNegatable e then do negate (← translate parameter e) else fail (.notNegatable e)
  | .convert e => translate parameter e
  | .member target name => truth parameter .equal (.member target name)
  | e => fail (.notACondition e)

end Translation

/-- Translates a lambda into an entry of a query. -/
def Lambda.translate (l : Lambda) : Except QueryError (Entry Query) :=
  Translation.translate l.parameter l.body

namespace Query

/-- Appends the condition that a lambda stands for. -/
def addLambda (connector : Connector) (l : Lambda) : Builder Unit := do
  match l.translate with
  | .error e => throw e
  | .ok entry =>
    match entry.item with
    | .tree q => modify (·.push connector (.tree q))
    | item => addItem connector item

/-- A query bound to an entity type, with the condition of a lambda. -/
def ofLambda (e : EntityType) (l : Lambda) : Except QueryError Query :=
  match (addLambda .and l).run (forEntity e) with
  | .ok _ q => .ok q
  | .error e _ => .error e

end Query

end RecordQuery
