import RecordQuery.Decimal.Layout
import RecordQuery.Value.Basic

/-!
# Values as text

The text of a value in conditions and records: strings between single quotes, lists in parentheses,
maps in braces. Nothing inside a string is escaped.
-/

namespace RecordQuery.Value

/-- The words for the truth values. -/
def boolText (b : Bool) : String :=
  if b then "true" else "false"

mutual

/-- A value as text. -/
def text : Value → String
  | null => "null"
  | bool b => boolText b
  | int n => Decimal.intText n.toInt
  | float x => Decimal.Layout.plain.float x
  | string s => "'" ++ s ++ "'"
  | list items => "(" ++ itemsText items ++ ")"
  | map entries => "\x7b" ++ entriesText entries ++ "\x7d"

/-- The items of a list, with commas between them. -/
def itemsText : List Value → String
  | [] => ""
  | [v] => v.text
  | v :: vs => v.text ++ ", " ++ itemsText vs

/-- The entries of a map, with commas between them. -/
def entriesText : Fields Value → String
  | [] => ""
  | [(name, v)] => name ++ ": " ++ v.text
  | (name, v) :: rest => name ++ ": " ++ v.text ++ ", " ++ entriesText rest

end

end RecordQuery.Value
