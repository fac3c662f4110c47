import RecordQuery.Json.Basic
import RecordQuery.Value.Basic

/-!
# Values and JSON

`Value.toJson` writes a value as a JSON tree, and two readers take a tree back. `Value.ofJson` goes by
the kind of the tree. `Value.decode` tries the kinds of values in turn, from null to maps, and takes
the first that fits the tree, so it needs no knowledge of how kinds of trees and kinds of values
correspond.

A whole number that fits in 64 bits with its sign is an int, every other number a float. Of several
members of an object under one name the last counts.
-/

namespace RecordQuery

namespace Value

mutual

/-- A value as JSON. -/
def toJson : Value → Json
  | null => .null
  | bool b => .bool b
  | int n => .whole n.toInt
  | float x => .ofFloat x
  | string s => .string s
  | list items => .array (itemsToJson items)
  | map entries => .object (entriesToJson entries)

/-- The items of a list as JSON. -/
def itemsToJson : List Value → List Json
  | [] => []
  | v :: vs => v.toJson :: itemsToJson vs

/-- The entries of a map as JSON. -/
def entriesToJson : List (String × Value) → List (String × Json)
  | [] => []
  | (name, v) :: rest => (name, v.toJson) :: entriesToJson rest

end

/-- A whole number as a value. -/
def ofWhole (n : Int) : Value :=
  match int64? n with
  | some i => int i
  | none => float (Float.ofInt n)

mutual

/-- The value of a JSON tree, by the kind of the tree. -/
def ofJson : Json → Value
  | .null => null
  | .bool b => bool b
  | .whole n => ofWhole n
  | .float x => float x
  | .string s => string s
  | .array items => list (itemsOfJson items)
  | .object members => map (Fields.ofList (membersOfJson members))

/-- The values of the items of an array. -/
def itemsOfJson : List Json → List Value
  | [] => []
  | j :: js => ofJson j :: itemsOfJson js

/-- The values of the members of an object. -/
def membersOfJson : List (String × Json) → List (String × Value)
  | [] => []
  | (name, j) :: rest => (name, ofJson j) :: membersOfJson rest

end

/-- Reads null. -/
def decodeNull? : Json → Option Value
  | .null => some null
  | _ => none

/-- Reads a truth value. -/
def decodeBool? : Json → Option Value
  | .bool b => some (bool b)
  | _ => none

/-- Reads a whole number of 64 bits. -/
def decodeInt? : Json → Option Value
  | .whole n => (int64? n).map int
  | _ => none

/-- Reads any number as a float. -/
def decodeFloat? : Json → Option Value
  | .whole n => some (float (Float.ofInt n))
  | .float x => some (float x)
  | _ => none

/-- Reads a string. -/
def decodeString? : Json → Option Value
  | .string s => some (string s)
  | _ => none

/-- Reads a kind of value that holds no others, the earlier kinds first. -/
def decodeScalar? (j : Json) : Option Value :=
  [decodeNull?, decodeBool?, decodeInt?, decodeFloat?, decodeString?].findSome? (· j)

mutual

/-- The value of a JSON tree, of the first kind that fits it. -/
def decode : Json → Value
  | .array items => (decodeScalar? (.array items)).getD (list (decodeItems items))
  | .object members =>
    (decodeScalar? (.object members)).getD (map (Fields.ofList (decodeMembers members)))
  | j => (decodeScalar? j).getD null

/-- The values of the items of an array. -/
def decodeItems : List Json → List Value
  | [] => []
  | j :: js => decode j :: decodeItems js

/-- The values of the members of an object. -/
def decodeMembers : List (String × Json) → List (String × Value)
  | [] => []
  | (name, j) :: rest => (name, decode j) :: decodeMembers rest

end

end Value

end RecordQuery
