import RecordQuery.Expr.Basic
import RecordQuery.Lambda.Lexer
import RecordQuery.Lambda.ParseError
import RecordQuery.Reading

/-!
# From tokens to lambdas

A lambda is a parameter, an arrow and an expression. Binary operators bind by rank, from `||` with
rank 6 down to `*` and `/` with rank 1, and associate to the left. Tighter still are the prefixes `!`
and `-`, and tightest the members and calls that follow an operand with a dot.

A name is the parameter if it is spelled like it, otherwise a static call if a parenthesis follows,
otherwise a value from the bindings. A minus before a number becomes part of the number.

Each function reads an expression off the front of the tokens and returns it as a `Reading`, whose
rest is shorter. The functions end because each call has fewer tokens left, or as many and a lower
place in the order unary, binary by rank, expression, arguments.
-/

namespace RecordQuery

namespace Parser

/-- What names mean: the parameter of the lambda and the values bound to other names. -/
structure Scope where
  parameter : String
  bindings : Fields Value

/-- Something read off the front of tokens, or why that fails. -/
abbrev Result (α : Type) (source : List Token) := Except ParseError (Reading α source)

/-- The binary operator of a rank that a token stands for. -/
def operator? : Nat → TokenKind → Option BinaryOp
  | 6, .orElse => some .orElse
  | 5, .andAlso => some .andAlso
  | 4, .equal => some .equal
  | 4, .notEqual => some .notEqual
  | 3, .less => some .lessThan
  | 3, .lessEqual => some .lessThanOrEqual
  | 3, .greater => some .greaterThan
  | 3, .greaterEqual => some .greaterThanOrEqual
  | 2, .plus => some .add
  | 2, .minus => some .subtract
  | 1, .star => some .multiply
  | 1, .slash => some .divide
  | _, _ => none

/-- The rank of the loosest operators. -/
def loosest : Nat := 6

/-- An operand behind a minus. The opposite of a number is a number, except for the least integer,
which has none. -/
def negated : Expr → Expr
  | .constant (.int n) =>
    match int64? (-n.toInt) with
    | some m => .constant (.int m)
    | none => .negate (.constant (.int n))
  | .constant (.float x) => .constant (.float (-x))
  | e => .negate e

/-- The brackets that close a row of expressions. -/
inductive Closing
  | paren
  | bracket

/-- The token of a closing bracket. -/
def Closing.kind : Closing → TokenKind
  | paren => .rightParen
  | bracket => .rightBracket

/-- Whether a token is this closing bracket. -/
def Closing.isAt : Closing → List Token → Bool
  | paren, ⟨.rightParen, _⟩ :: _ => true
  | bracket, ⟨.rightBracket, _⟩ :: _ => true
  | _, _ => false

/-- The error of not finding a token. -/
def missing (wanted : TokenKind) : List Token → ParseError
  | [] => .expectedAtEnd wanted
  | token :: _ => .expected wanted token.kind token.span

/-- Takes the closing bracket after what has been read. -/
def close {α : Type} {source : List Token} (closing : Closing) (r : Reading α source) :
    Result α source :=
  match h : r.rest with
  | [] => .error (missing closing.kind [])
  | token :: rest =>
    if closing.isAt (token :: rest) then .ok ⟨r.value, rest, Reading.tail_shorter h⟩
    else .error (missing closing.kind (token :: rest))

/-- Takes a name. -/
def name (source : List Token) : Result String source :=
  match source with
  | ⟨.identifier s, _⟩ :: rest => .ok ⟨s, rest, Nat.lt_succ_self _⟩
  | other => .error (missing (.identifier "") other)

/-- The value that a token stands for by itself. -/
def literal? : TokenKind → Option Value
  | .number n => some (.int n)
  | .float x => some (.float x)
  | .string s => some (.string s)
  | .wordTrue => some (.bool true)
  | .wordFalse => some (.bool false)
  | .wordNull => some .null
  | _ => none

mutual

/-- Reads an expression. -/
def expression (scope : Scope) (source : List Token) : Result Expr source :=
  binary scope loosest source
  termination_by (source.length, 20)
  decreasing_by exact .right _ (by decide)

/-- Reads an expression without operators looser than a rank. -/
def binary (scope : Scope) (rank : Nat) (source : List Token) : Result Expr source :=
  match rank with
  | 0 => unary scope source
  | rank + 1 => do operands scope rank (← binary scope rank source)
  termination_by (source.length, rank + 4)
  decreasing_by
    · exact .right _ (by omega)
    · exact .right _ (by omega)
    · rename_i left; exact .left _ _ left.shorter

/-- Reads on while operators of the rank above the given one follow what has been read. -/
def operands (scope : Scope) (rank : Nat) {source : List Token} (left : Reading Expr source) :
    Result Expr source :=
  match h : left.rest with
  | [] => .ok left
  | token :: rest =>
    match operator? (rank + 1) token.kind with
    | none => .ok left
    | some op => do
      let right ← binary scope rank rest
      operands scope rank ⟨.binary op left.value right.value, right.rest,
        Nat.lt_trans right.shorter (Reading.tail_shorter h)⟩
  termination_by (left.rest.length, 0)
  decreasing_by
    · exact .left _ _ (by simp [h])
    · exact .left _ _ (Nat.lt_trans right.shorter (by simp [h]))

/-- Reads an operand with the prefixes before it. -/
def unary (scope : Scope) (source : List Token) : Result Expr source :=
  match source with
  | ⟨.bang, _⟩ :: rest => do
    let r ← unary scope rest
    .ok ((r.map .not).within (Nat.le_succ _))
  | ⟨.minus, _⟩ :: rest => do
    let r ← unary scope rest
    .ok ((r.map negated).within (Nat.le_succ _))
  | source => do members scope (← primary scope source)
  termination_by (source.length, 3)
  decreasing_by
    · exact .left _ _ (Nat.lt_succ_self _)
    · exact .left _ _ (Nat.lt_succ_self _)
    · exact .right _ (by decide)
    · rename_i target; exact .left _ _ target.shorter

/-- Reads on while members and calls follow what has been read. -/
def members (scope : Scope) {source : List Token} (target : Reading Expr source) :
    Result Expr source :=
  match h : target.rest with
  | ⟨.dot, _⟩ :: rest => do
    let member ← name rest
    match hm : member.rest with
    | ⟨.leftParen, _⟩ :: afterParen => do
      let args ← arguments scope .paren afterParen
      members scope ⟨.call target.value member.value args.value, args.rest,
        Nat.lt_trans args.shorter (Nat.lt_trans (Reading.tail_shorter hm) (Reading.tail_shorter h))⟩
    | afterName =>
      members scope ⟨.member target.value member.value, afterName,
        hm ▸ Nat.lt_trans member.shorter (Reading.tail_shorter h)⟩
  | _ => .ok target
  termination_by (target.rest.length, 0)
  decreasing_by
    · exact .left _ _ (Nat.lt_trans (Reading.tail_shorter hm) (by simp [h]))
    · exact .left _ _ (Nat.lt_trans args.shorter
        (Nat.lt_trans (Reading.tail_shorter hm) (by simp [h])))
    · exact .left _ _ (hm ▸ Nat.lt_trans member.shorter (by simp [h]))

/-- Reads a literal, a list, a name, or an expression in parentheses. -/
def primary (scope : Scope) (source : List Token) : Result Expr source :=
  match source with
  | [] => .error .noExpression
  | token :: rest =>
    match literal? token.kind with
    | some v => .ok ⟨.constant v, rest, Nat.lt_succ_self _⟩
    | none =>
      match token.kind with
      | .leftParen => do
        let r ← expression scope rest
        .ok ((← close .paren r).within (Nat.le_succ _))
      | .leftBracket => do
        let r ← arguments scope .bracket rest
        .ok ((r.map .list).within (Nat.le_succ _))
      | .identifier s =>
        if s = scope.parameter then .ok ⟨.parameter s, rest, Nat.lt_succ_self _⟩
        else
          match rest with
          | ⟨.leftParen, _⟩ :: afterParen => do
            let r ← arguments scope .paren afterParen
            .ok ((r.map (.staticCall s)).within (Nat.le_add_right _ 2))
          | rest =>
            match scope.bindings.get? s with
            | some v => .ok ⟨.constant v, rest, Nat.lt_succ_self _⟩
            | none => .error (.unbound s token.span)
      | .illegal => .error (.illegal token.span)
      | kind => .error (.unexpected kind token.span)
  termination_by (source.length, 2)
  decreasing_by
    · exact .left _ _ (Nat.lt_succ_self _)
    · exact .left _ _ (Nat.lt_succ_self _)
    · exact .left _ _ (Nat.le_add_right _ 1)

/-- Reads expressions with commas between them, up to the closing bracket. -/
def arguments (scope : Scope) (closing : Closing) (source : List Token) :
    Result (List Expr) source :=
  match source with
  | [] => items scope closing []
  | token :: rest =>
    if closing.isAt (token :: rest) then .ok ⟨[], rest, Nat.lt_succ_self _⟩
    else items scope closing (token :: rest)
  termination_by (source.length, 22)
  decreasing_by all_goals exact .right _ (by decide)

/-- Reads one or more expressions with commas between them, up to the closing bracket. -/
def items (scope : Scope) (closing : Closing) (source : List Token) :
    Result (List Expr) source := do
  let first ← expression scope source
  match h : first.rest with
  | ⟨.comma, _⟩ :: rest => do
    let others ← items scope closing rest
    .ok ((others.map (first.value :: ·)).within (Nat.le_of_lt (Reading.tail_shorter h)))
  | _ => close closing (first.map ([·]))
  termination_by (source.length, 21)
  decreasing_by
    · exact .right _ (by decide)
    · exact .left _ _ (Reading.tail_shorter h)

end

/-- Takes the arrow of a lambda. -/
def arrow : List Token → Except ParseError (List Token)
  | ⟨.arrow, _⟩ :: rest => .ok rest
  | other => .error (missing .arrow other)

/-- Reads a lambda that takes up all tokens. -/
def lambda (bindings : Fields Value) (source : List Token) : Except ParseError Lambda := do
  let parameter ← name source
  let body ← expression ⟨parameter.value, bindings⟩ (← arrow parameter.rest)
  match body.rest with
  | [] => .ok ⟨parameter.value, body.value⟩
  | token :: _ => .error (.unexpected token.kind token.span)

end Parser

/-- Reads a lambda from text, with values for the names that are not its parameter. -/
def Lambda.parse (text : String) (bindings : Fields Value := []) : Except ParseError Lambda :=
  Parser.lambda bindings (Lexer.tokens text)

end RecordQuery
