import RecordQuery.Condition.Basic

/-!
# Copies of a condition

A `Family` is a condition with the copies made of it. All copies share the producer of the value, and
`runs` counts how often it has run. Each copy reads the value for itself unless it was copied from one
that had read it.
-/

namespace RecordQuery

/-- A condition and its copies, in the order in which they were made. -/
structure Family where
  members : List Condition
  runs : Nat := 0

/-- What can be done with a member of a family. -/
inductive Family.Look
  | value
  | text
  | json
  | converter
  | clone

/-- What doing it shows. -/
inductive Family.Sight where
  | value (v : Value)
  | text (s : String)
  | json (j : Json)
  | converter (c : Option Converter)
  /-- The number of members. -/
  | size (n : Nat)

namespace Family

/-- Whether a look at a condition reads its value. -/
def Look.reads (look : Look) (c : Condition) : Bool :=
  match look with
  | .value | .json => true
  | .text => c.showsValue
  | .converter | .clone => false

/-- What a look at a condition shows that has been read if need be. -/
def Look.sight (look : Look) (size : Nat) (c : Condition) : Sight :=
  match look with
  | .value => .value c.value
  | .text => .text c.text
  | .json => .json c.toJson
  | .converter => .converter c.converter
  | .clone => .size size

/-- Looks at the member at an index. -/
def look? (f : Family) (look : Look) (index : Nat) : Option (Sight × Family) :=
  match f.members[index]? with
  | none => none
  | some c =>
    let (c, runs) := if look.reads c then c.read f.runs else (c, f.runs)
    let members := f.members.set index c
    let members := match look with
      | .clone => members ++ [c]
      | _ => members
    some (look.sight members.length c, ⟨members, runs⟩)

end Family

end RecordQuery
