import RecordQuery.Decimal.Layout
import RecordQuery.Text.Quoted

/-!
# Tokens of lambda text

A token has a kind and the place where it stands. `TokenKind.describe` is how error messages show a
token.
-/

namespace RecordQuery

/-- A stretch of text, in bytes of its UTF-8 form. -/
structure Span where
  start : Nat
  stop : Nat
  deriving DecidableEq, Repr

/-- Kinds of tokens. -/
inductive TokenKind where
  | wordTrue
  | wordFalse
  | wordNull
  | identifier (name : String)
  /-- A string by what stands between its quotes. -/
  | string (content : String)
  | number (n : Int64)
  | float (x : Float)
  | arrow
  | dot
  | comma
  | leftParen
  | rightParen
  | leftBracket
  | rightBracket
  | andAlso
  | orElse
  | bang
  | equal
  | notEqual
  | greater
  | less
  | greaterEqual
  | lessEqual
  | plus
  | minus
  | star
  | slash
  /-- Text that no token may begin with. -/
  | illegal

namespace TokenKind

/-- The name of a kind of token. -/
def name : TokenKind → String
  | wordTrue => "True"
  | wordFalse => "False"
  | wordNull => "Null"
  | identifier _ => "Identifier"
  | string _ => "String"
  | number _ => "Number"
  | float _ => "Float"
  | arrow => "Arrow"
  | dot => "Dot"
  | comma => "Comma"
  | leftParen => "LParen"
  | rightParen => "RParen"
  | leftBracket => "LBracket"
  | rightBracket => "RBracket"
  | andAlso => "AndAlso"
  | orElse => "OrElse"
  | bang => "Bang"
  | equal => "Eq"
  | notEqual => "NotEq"
  | greater => "Gt"
  | less => "Lt"
  | greaterEqual => "Gte"
  | lessEqual => "Lte"
  | plus => "Plus"
  | minus => "Minus"
  | star => "Star"
  | slash => "Slash"
  | illegal => "Illegal"

/-- A token as messages show it: its name, and in parentheses what it holds. -/
def describe : TokenKind → String
  | identifier s => "Identifier(" ++ Text.quoted s ++ ")"
  | string s => "String(" ++ Text.quoted s ++ ")"
  | number n => "Number(" ++ Decimal.intText n.toInt ++ ")"
  | float x => "Float(" ++ Decimal.Layout.source.float x ++ ")"
  | kind => kind.name

end TokenKind

/-- A token of a lambda text. -/
structure Token where
  kind : TokenKind
  span : Span

end RecordQuery
