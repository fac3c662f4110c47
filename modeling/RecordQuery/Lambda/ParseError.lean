import RecordQuery.Lambda.Token

/-!
# Errors in lambda text

Why a row of tokens is not a lambda. An error at a token names the place of that token. An error at
the end of the tokens has no place.
-/

namespace RecordQuery

/-- Why a row of tokens is not a lambda. A missing name is shown as the empty identifier. -/
inductive ParseError where
  /-- Another token stands where `wanted` should. -/
  | expected (wanted found : TokenKind) (span : Span)
  /-- The tokens end where `wanted` should stand. -/
  | expectedAtEnd (wanted : TokenKind)
  /-- The tokens end where an expression should stand. -/
  | noExpression
  /-- A token that cannot stand here. -/
  | unexpected (found : TokenKind) (span : Span)
  /-- Text that is no token. -/
  | illegal (span : Span)
  /-- A name that is neither the parameter nor bound to a value. -/
  | unbound (name : String) (span : Span)

namespace ParseError

/-- What the error says. -/
def message : ParseError → String
  | expected wanted found _ => "Expected " ++ wanted.describe ++ ", found " ++ found.describe
  | expectedAtEnd wanted => "Expected " ++ wanted.describe ++ ", but reached end of input"
  | noExpression => "Expected expression, but reached end of input"
  | unexpected found _ => "Unexpected token: " ++ found.describe
  | illegal _ => "Illegal character"
  | unbound name _ => "Unbound identifier '" ++ name ++ "'"

/-- Where the error is. -/
def span? : ParseError → Option Span
  | expected _ _ span => some span
  | expectedAtEnd _ => none
  | noExpression => none
  | unexpected _ span => some span
  | illegal span => some span
  | unbound _ span => some span

end ParseError

end RecordQuery
