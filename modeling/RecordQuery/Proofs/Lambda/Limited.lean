import RecordQuery.Lambda.Parser

/-!
# The parser with a limit on its calls

The readers of the parser end because what they return is shorter than what they are given. Here are the
same readers without that: they return the tokens that are left as they are, and may call one another
only so deep as a limit says. At the limit they give up with an error of its own. That a limit in
proportion to the tokens is never reached is in `RecordQuery.Proofs.Lambda.Advances`.
-/

namespace RecordQuery

namespace Parser

/-- Something read off the front of tokens, and what is left. -/
structure Part (α : Type) where
  value : α
  rest : List Token

/-- Takes the closing bracket after what has been read. -/
def Part.close {α : Type} (closing : Closing) (r : Part α) : Except ParseError (Part α) :=
  if closing.isAt r.rest then .ok ⟨r.value, r.rest.tail⟩
  else .error (missing closing.kind r.rest)

/-- What ends with an error of the parser, or with none where it has reached its limit. -/
abbrev Limited := Except (Option ParseError)

/-- What does not come to its limit. -/
def unlimited {α : Type} : Except ParseError α → Limited α
  | .ok a => .ok a
  | .error e => .error (some e)

namespace Limited

mutual

/-- Reads an expression. -/
def expression (scope : Scope) (limit : Nat) (source : List Token) : Limited (Part Expr) :=
  match limit with
  | 0 => .error none
  | limit + 1 => binary scope limit loosest source
  termination_by structural limit

/-- Reads an expression without operators looser than a rank. -/
def binary (scope : Scope) (limit rank : Nat) (source : List Token) : Limited (Part Expr) :=
  match limit, rank with
  | 0, _ => .error none
  | limit + 1, 0 => unary scope limit source
  | limit + 1, rank + 1 => do
    let left ← binary scope limit rank source
    operands scope limit rank left.value left.rest
  termination_by structural limit

/-- Reads on while operators of the rank above the given one follow the expression `left`. -/
def operands (scope : Scope) (limit rank : Nat) (left : Expr) (source : List Token) :
    Limited (Part Expr) :=
  match limit, source with
  | 0, _ => .error none
  | _ + 1, [] => .ok ⟨left, []⟩
  | limit + 1, token :: rest =>
    match operator? (rank + 1) token.kind with
    | none => .ok ⟨left, token :: rest⟩
    | some op => do
      let right ← binary scope limit rank rest
      operands scope limit rank (.binary op left right.value) right.rest
  termination_by structural limit

/-- Reads an operand with the prefixes before it. -/
def unary (scope : Scope) (limit : Nat) (source : List Token) : Limited (Part Expr) :=
  match limit, source with
  | 0, _ => .error none
  | limit + 1, ⟨.bang, _⟩ :: rest => do
    let r ← unary scope limit rest
    .ok ⟨.not r.value, r.rest⟩
  | limit + 1, ⟨.minus, _⟩ :: rest => do
    let r ← unary scope limit rest
    .ok ⟨negated r.value, r.rest⟩
  | limit + 1, source => do
    let target ← primary scope limit source
    members scope limit target.value target.rest
  termination_by structural limit

/-- Reads on while members and calls follow the expression `target`. -/
def members (scope : Scope) (limit : Nat) (target : Expr) (source : List Token) :
    Limited (Part Expr) :=
  match limit, source with
  | 0, _ => .error none
  | limit + 1, ⟨.dot, _⟩ :: ⟨.identifier name, _⟩ :: ⟨.leftParen, _⟩ :: rest => do
    let args ← arguments scope limit .paren rest
    members scope limit (.call target name args.value) args.rest
  | limit + 1, ⟨.dot, _⟩ :: ⟨.identifier name, _⟩ :: rest =>
    members scope limit (.member target name) rest
  | _ + 1, ⟨.dot, _⟩ :: rest => .error (some (missing (.identifier "") rest))
  | _ + 1, source => .ok ⟨target, source⟩
  termination_by structural limit

/-- Reads a literal, a list, a name, or an expression in parentheses. -/
def primary (scope : Scope) (limit : Nat) (source : List Token) : Limited (Part Expr) :=
  match limit, source with
  | 0, _ => .error none
  | _ + 1, [] => .error (some .noExpression)
  | limit + 1, token :: rest =>
    match literal? token.kind with
    | some v => .ok ⟨.constant v, rest⟩
    | none =>
      match token.kind with
      | .leftParen => do
        let r ← expression scope limit rest
        unlimited (r.close .paren)
      | .leftBracket => do
        let r ← arguments scope limit .bracket rest
        .ok ⟨.list r.value, r.rest⟩
      | .identifier s =>
        if s = scope.parameter then .ok ⟨.parameter s, rest⟩
        else
          match rest with
          | ⟨.leftParen, _⟩ :: afterParen => do
            let r ← arguments scope limit .paren afterParen
            .ok ⟨.staticCall s r.value, r.rest⟩
          | rest =>
            match scope.bindings.get? s with
            | some v => .ok ⟨.constant v, rest⟩
            | none => .error (some (.unbound s token.span))
      | .illegal => .error (some (.illegal token.span))
      | kind => .error (some (.unexpected kind token.span))
  termination_by structural limit

/-- Reads expressions with commas between them, up to the closing bracket. -/
def arguments (scope : Scope) (limit : Nat) (closing : Closing) (source : List Token) :
    Limited (Part (List Expr)) :=
  match limit with
  | 0 => .error none
  | limit + 1 =>
    if closing.isAt source then .ok ⟨[], source.tail⟩ else items scope limit closing source
  termination_by structural limit

/-- Reads one or more expressions with commas between them, up to the closing bracket. -/
def items (scope : Scope) (limit : Nat) (closing : Closing) (source : List Token) :
    Limited (Part (List Expr)) :=
  match limit with
  | 0 => .error none
  | limit + 1 => do
    let first ← expression scope limit source
    moreItems scope limit closing first.value first.rest
  termination_by structural limit

/-- Reads on behind the expression `first`, up to the closing bracket. -/
def moreItems (scope : Scope) (limit : Nat) (closing : Closing) (first : Expr)
    (source : List Token) : Limited (Part (List Expr)) :=
  match limit, source with
  | 0, _ => .error none
  | limit + 1, ⟨.comma, _⟩ :: rest => do
    let others ← items scope limit closing rest
    .ok ⟨first :: others.value, others.rest⟩
  | _ + 1, source => unlimited (Part.close closing ⟨[first], source⟩)
  termination_by structural limit

end

end Limited

end Parser

end RecordQuery
