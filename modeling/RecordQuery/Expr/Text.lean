import RecordQuery.Expr.Basic
import RecordQuery.Value.Text

/-!
# Expressions as text

The text of an expression reads as lambda source again: binary operations stand in parentheses,
strings between double quotes. A conversion does not show.
-/

namespace RecordQuery

mutual

/-- An expression as text. -/
def Expr.text : Expr → String
  | .parameter name => name
  | .constant (.string s) => "\"" ++ s ++ "\""
  | .constant v => v.text
  | .member target name => target.text ++ "." ++ name
  | .convert inner => inner.text
  | .not inner => "!" ++ inner.text
  | .negate inner => "-" ++ inner.text
  | .binary op left right => "(" ++ left.text ++ " " ++ op.symbol ++ " " ++ right.text ++ ")"
  | .call target method args => target.text ++ "." ++ method ++ "(" ++ Expr.listText args ++ ")"
  | .staticCall method args => method ++ "(" ++ Expr.listText args ++ ")"
  | .list items => "[" ++ Expr.listText items ++ "]"

/-- Expressions with commas between them. -/
def Expr.listText : List Expr → String
  | [] => ""
  | [e] => e.text
  | e :: es => e.text ++ ", " ++ Expr.listText es

end

/-- A lambda as text. -/
def Lambda.text (l : Lambda) : String :=
  l.parameter ++ " => " ++ l.body.text

end RecordQuery
