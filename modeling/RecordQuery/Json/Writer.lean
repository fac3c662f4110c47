import RecordQuery.Decimal.Layout
import RecordQuery.Json.Basic
import RecordQuery.Text.Quoted

/-!
# Writing JSON

`Json.pretty` writes a tree with one item or member a line, two spaces deeper at each level. Empty
arrays and objects stay on their line.
-/

namespace RecordQuery.Json

/-- A control by its code point, in four digits. -/
def controlEscape (c : Char) : List Char :=
  let code := Text.hexText c.toNat
  '\\' :: 'u' :: (List.replicate (4 - code.length) '0' ++ code)

/-- A character inside a JSON string. Only the quote, the backslash and controls are escaped. -/
def stringChar (c : Char) : List Char :=
  if c = '"' ∨ c = '\\' then ['\\', c]
  else if c = '\n' then ['\\', 'n']
  else if c = '\r' then ['\\', 'r']
  else if c = '\t' then ['\\', 't']
  else if c.toNat = 8 then ['\\', 'b']
  else if c.toNat = 12 then ['\\', 'f']
  else if c.toNat < 32 then controlEscape c
  else [c]

/-- A JSON string. -/
def stringText (s : String) : String :=
  String.ofList ('"' :: s.toList.flatMap stringChar ++ ['"'])

/-- The start of a line at a level of nesting. -/
def lineStart (level : Nat) : String :=
  "\n" ++ String.ofList (List.replicate (2 * level) ' ')

mutual

/-- A tree at a level of nesting. -/
def prettyAt (level : Nat) : Json → String
  | null => "null"
  | bool b => if b then "true" else "false"
  | whole n => Decimal.intText n
  | float x => if x.isFinite then Decimal.Layout.data.float x else "null"
  | string s => stringText s
  | array [] => "[]"
  | array (x :: xs) =>
    "[" ++ lineStart (level + 1) ++ prettyAt (level + 1) x ++ prettyItems (level + 1) xs ++
      lineStart level ++ "]"
  | object [] => "\x7b\x7d"
  | object ((name, x) :: rest) =>
    "\x7b" ++ lineStart (level + 1) ++ stringText name ++ ": " ++ prettyAt (level + 1) x ++
      prettyMembers (level + 1) rest ++ lineStart level ++ "\x7d"

/-- The items of an array after the first. -/
def prettyItems (level : Nat) : List Json → String
  | [] => ""
  | x :: xs => "," ++ lineStart level ++ prettyAt level x ++ prettyItems level xs

/-- The members of an object after the first. -/
def prettyMembers (level : Nat) : List (String × Json) → String
  | [] => ""
  | (name, x) :: rest =>
    "," ++ lineStart level ++ stringText name ++ ": " ++ prettyAt level x ++
      prettyMembers level rest

end

/-- A tree as text over several lines. -/
def pretty (j : Json) : String :=
  prettyAt 0 j

end RecordQuery.Json
