/-!
# JSON trees

The data of a JSON text. Whole numbers and floats are kept apart: `1` is whole, `1.0` a float. The
members of an object stand in the order in which they are written.
-/

namespace RecordQuery

/-- A JSON tree. -/
inductive Json where
  | null
  | bool (b : Bool)
  | whole (n : Int)
  | float (x : Float)
  | string (s : String)
  | array (items : List Json)
  | object (members : List (String × Json))

instance : Inhabited Json := ⟨.null⟩

namespace Json

/-- A float as JSON, which has no way to write infinities and NaN. -/
def ofFloat (x : Float) : Json :=
  if x.isFinite then float x else null

/-- A count. -/
def ofNat (n : Nat) : Json :=
  whole n

/-- Something that may be missing, as null when it is. -/
def ofOption {α : Type} (f : α → Json) : Option α → Json
  | none => null
  | some x => f x

/-- A list, item by item. -/
def ofList {α : Type} (f : α → Json) (xs : List α) : Json :=
  array (xs.map f)

/-- A list of strings. -/
def ofStrings (xs : List String) : Json :=
  ofList string xs

end Json

end RecordQuery
