import RecordQuery.Lambda.Parser

/-!
# The grammar of lambdas

```
lambda   = name '=>' level 6
level n  = level (n - 1) (operator of rank n, level (n - 1))*      for n from 6 to 1
level 0  = '!' level 0 | '-' level 0 | primary suffix*
suffix   = '.' name | '.' name '(' args ')'
primary  = literal | '(' level 6 ')' | '[' args ']' | the parameter
         | other name '(' args ')' | other bound name, no '(' behind it
args     = nothing | level 6 (',' level 6)*
```

A `Derivation` is a derivation in this grammar from the tokens at its start to those left at its end,
and `Derivation.tree` the expression it stands for. Nothing here looks at how the parser works.
-/

namespace RecordQuery

/-! ## Operators and literals -/

namespace BinaryOp

/-- How loosely an operator binds. -/
def rank : BinaryOp → Nat
  | orElse => 6
  | andAlso => 5
  | equal | notEqual => 4
  | lessThan | lessThanOrEqual | greaterThan | greaterThanOrEqual => 3
  | add | subtract => 2
  | multiply | divide => 1

/-- The token of an operator. -/
def token : BinaryOp → TokenKind
  | orElse => .orElse
  | andAlso => .andAlso
  | equal => .equal
  | notEqual => .notEqual
  | lessThan => .less
  | lessThanOrEqual => .lessEqual
  | greaterThan => .greater
  | greaterThanOrEqual => .greaterEqual
  | add => .plus
  | subtract => .minus
  | multiply => .star
  | divide => .slash

theorem token_injective {a b : BinaryOp} (h : a.token = b.token) : a = b := by
  cases a <;> cases b <;> first | rfl | cases h

end BinaryOp

/-- Tokens that are a value by themselves. -/
inductive Literal : TokenKind → Value → Prop
  | number (n : Int64) : Literal (.number n) (.int n)
  | float (x : Float) : Literal (.float x) (.float x)
  | string (s : String) : Literal (.string s) (.string s)
  | wordTrue : Literal .wordTrue (.bool true)
  | wordFalse : Literal .wordFalse (.bool false)
  | wordNull : Literal .wordNull .null

theorem Literal.unique {kind : TokenKind} {v w : Value} (hv : Literal kind v) (hw : Literal kind w) :
    v = w := by
  cases hv <;> cases hw <;> rfl

/-- An operand behind a minus. Numbers take the minus in, except for the least integer. -/
def Expr.minus : Expr → Expr
  | .constant (.int n) =>
    if n = Int64.minValue then .negate (.constant (.int n)) else .constant (.int (-n))
  | .constant (.float x) => .constant (.float (-x))
  | e => .negate e

/-! ## Derivations -/

namespace Grammar

/-- What can be derived. -/
inductive Category
  /-- An expression with operators up to a rank. At rank 0 there are none. -/
  | level (rank : Nat)
  /-- Operators of the rank above with the operands behind them. -/
  | more (rank : Nat)
  | primary
  /-- The members and calls behind a primary. -/
  | suffixes
  | args
  /-- The arguments behind the first, each with the comma before it. -/
  | moreArgs

/-- What a category stands for. Members have no arguments. -/
abbrev Category.Tree : Category → Type
  | level _ => Expr
  | more _ => List (BinaryOp × Expr)
  | primary => Expr
  | suffixes => List (String × Option (List Expr))
  | args => List Expr
  | moreArgs => List Expr

open RecordQuery.Parser (Scope)

/-- A derivation of the tokens from a start to an end, given as what is left at each of them. -/
inductive Derivation (scope : Scope) : Category → List Token → List Token → Type
  | level {rank : Nat} {s t u : List Token} (first : Derivation scope (.level rank) s t)
      (others : Derivation scope (.more rank) t u) : Derivation scope (.level (rank + 1)) s u
  | stop {rank : Nat} {s : List Token} : Derivation scope (.more rank) s s
  | next {rank : Nat} {token : Token} {op : BinaryOp} {s t u : List Token}
      (hk : token.kind = op.token) (hr : op.rank = rank + 1)
      (right : Derivation scope (.level rank) s t) (others : Derivation scope (.more rank) t u) :
      Derivation scope (.more rank) (token :: s) u
  | bang {a : Span} {s t : List Token} (operand : Derivation scope (.level 0) s t) :
      Derivation scope (.level 0) (⟨.bang, a⟩ :: s) t
  | minus {a : Span} {s t : List Token} (operand : Derivation scope (.level 0) s t) :
      Derivation scope (.level 0) (⟨.minus, a⟩ :: s) t
  | suffixed {s t u : List Token} (target : Derivation scope .primary s t)
      (suffixes : Derivation scope .suffixes t u) : Derivation scope (.level 0) s u
  | bare {s : List Token} : Derivation scope .suffixes s s
  | member {a b : Span} {name : String} {s t : List Token}
      (others : Derivation scope .suffixes s t) :
      Derivation scope .suffixes (⟨.dot, a⟩ :: ⟨.identifier name, b⟩ :: s) t
  | call {a b c d : Span} {name : String} {s t u : List Token}
      (args : Derivation scope .args s (⟨.rightParen, d⟩ :: t))
      (others : Derivation scope .suffixes t u) :
      Derivation scope .suffixes
        (⟨.dot, a⟩ :: ⟨.identifier name, b⟩ :: ⟨.leftParen, c⟩ :: s) u
  | literal {token : Token} {v : Value} {s : List Token} (h : Literal token.kind v) :
      Derivation scope .primary (token :: s) s
  | paren {a b : Span} {s t : List Token}
      (inner : Derivation scope (.level 6) s (⟨.rightParen, b⟩ :: t)) :
      Derivation scope .primary (⟨.leftParen, a⟩ :: s) t
  | list {a b : Span} {s t : List Token}
      (items : Derivation scope .args s (⟨.rightBracket, b⟩ :: t)) :
      Derivation scope .primary (⟨.leftBracket, a⟩ :: s) t
  | parameter {a : Span} {name : String} {s : List Token} (h : name = scope.parameter) :
      Derivation scope .primary (⟨.identifier name, a⟩ :: s) s
  | static {a b c : Span} {name : String} {s t : List Token} (h : name ≠ scope.parameter)
      (args : Derivation scope .args s (⟨.rightParen, c⟩ :: t)) :
      Derivation scope .primary (⟨.identifier name, a⟩ :: ⟨.leftParen, b⟩ :: s) t
  | bound {a : Span} {name : String} {v : Value} {s : List Token} (h : name ≠ scope.parameter)
      (hv : scope.bindings.get? name = some v) (hs : ∀ b t, s ≠ ⟨.leftParen, b⟩ :: t) :
      Derivation scope .primary (⟨.identifier name, a⟩ :: s) s
  | noArgs {s : List Token} : Derivation scope .args s s
  | args {s t u : List Token} (first : Derivation scope (.level 6) s t)
      (others : Derivation scope .moreArgs t u) : Derivation scope .args s u
  | lastArg {s : List Token} : Derivation scope .moreArgs s s
  | nextArg {a : Span} {s t u : List Token} (arg : Derivation scope (.level 6) s t)
      (others : Derivation scope .moreArgs t u) : Derivation scope .moreArgs (⟨.comma, a⟩ :: s) u

/-- Operands with the operators between them, from left to right. -/
def chain (first : Expr) (others : List (BinaryOp × Expr)) : Expr :=
  others.foldl (fun left (op, right) => .binary op left right) first

/-- A primary with the members and calls behind it, from left to right. -/
def access (target : Expr) (suffixes : List (String × Option (List Expr))) : Expr :=
  suffixes.foldl
    (fun target (name, args?) =>
      match args? with
      | none => .member target name
      | some args => .call target name args)
    target

/-- What a derivation stands for. -/
def Derivation.tree {scope : Scope} {category : Category} {s t : List Token} :
    Derivation scope category s t → category.Tree
  | level first others => chain first.tree others.tree
  | stop => []
  | @next _ _ _ op _ _ _ _ _ right others => (op, right.tree) :: others.tree
  | bang operand => .not operand.tree
  | minus operand => Expr.minus operand.tree
  | suffixed target suffixes => access target.tree suffixes.tree
  | bare => []
  | @member _ _ _ name _ _ others => (name, none) :: others.tree
  | @call _ _ _ _ _ name _ _ _ row others => (name, some row.tree) :: others.tree
  | @literal _ _ v _ _ => .constant v
  | paren inner => inner.tree
  | list items => .list items.tree
  | @parameter _ _ name _ _ => .parameter name
  | @static _ _ _ _ name _ _ _ row => .staticCall name row.tree
  | @bound _ _ _ v _ _ _ _ => .constant v
  | noArgs => []
  | args first others => first.tree :: others.tree
  | lastArg => []
  | nextArg arg others => arg.tree :: others.tree

/-- A derivation of a whole lambda. -/
inductive LambdaDerivation (bindings : Fields Value) : List Token → Type
  | lambda {a b : Span} {name : String} {s : List Token}
      (body : Derivation ⟨name, bindings⟩ (.level 6) s []) :
      LambdaDerivation bindings (⟨.identifier name, a⟩ :: ⟨.arrow, b⟩ :: s)

/-- The lambda that a derivation stands for. -/
def LambdaDerivation.lambdaOf {bindings : Fields Value} {s : List Token} :
    LambdaDerivation bindings s → Lambda
  | @lambda _ _ _ name _ body => ⟨name, body.tree⟩

end Grammar

end RecordQuery
