import RecordQuery.Condition.Basic
import RecordQuery.Error
import RecordQuery.Text.Blank

/-!
# What queries carry besides conditions

The pieces of a query that hold no other query: the pairs of fields of a join, the keys of a recursive
query, sort keys, paging, a text in place of the query, and a token to cancel it by.
-/

namespace RecordQuery

/-- A pair of fields that a join compares. -/
structure JoinField where
  source : String
  target : String
  deriving DecidableEq

/-- A pair of joined fields as JSON. -/
def JoinField.toJson (f : JoinField) : Json :=
  .object [("source", .string f.source), ("target", .string f.target)]

/-- How a recursive query walks from a record to related ones. -/
structure Recurve where
  key : String
  relationKey : String
  direction : Direction
  deriving DecidableEq

/-- A recursive walk, whose keys must be different and not blank. -/
def Recurve.make (key relationKey : String) (direction : Direction) : Except RecurveFault Recurve :=
  if Text.allBlank key || Text.allBlank relationKey then .error .blankKey
  else if key = relationKey then .error (.sameKey key)
  else .ok ⟨key, relationKey, direction⟩

/-- A recursive walk as JSON. -/
def Recurve.toJson (r : Recurve) : Json :=
  .object
    [("key", .string r.key), ("relation_key", .string r.relationKey),
     ("direction", .string r.direction.name)]

/-- A field to sort by. -/
structure SortKey where
  field : String
  descending : Bool
  converter : Option Converter := none

/-- A sort key as JSON. -/
def SortKey.toJson (k : SortKey) : Json :=
  .object
    [("field", .string k.field), ("desc", .bool k.descending),
     ("converter", .ofOption Converter.toJson k.converter)]

/-- A page of the result. Pages count from 1. -/
structure Paging where
  page : Nat
  pageSize : Nat
  deriving DecidableEq

namespace Paging

/-- A page of the result. Page 0 is taken as page 1. -/
def make (page pageSize : Nat) : Paging :=
  ⟨max page 1, pageSize⟩

/-- How many records come before the page. -/
def skip (p : Paging) : Nat :=
  (p.page - 1) * p.pageSize

/-- How many records the page has. -/
def take (p : Paging) : Nat :=
  p.pageSize

/-- A page as JSON. -/
def toJson (p : Paging) : Json :=
  .object [("page", .ofNat p.page), ("page_size", .ofNat p.pageSize)]

end Paging

/-- A text that is executed in place of the query. -/
structure QueryText where
  text : String
  parameters : Fields Value

/-- A text query as JSON. -/
def QueryText.toJson (t : QueryText) : Json :=
  .object [("text", .string t.text), ("parameters", .object (Value.entriesToJson t.parameters))]

/-- A token by which queries are cancelled. Queries with the same token are cancelled together. -/
structure CancellationToken where
  name : String
  deriving DecidableEq

/-- The tokens that have been cancelled. -/
structure Cancellations where
  names : List String := []

namespace Cancellations

/-- Cancels a token. -/
def cancel (c : Cancellations) (t : CancellationToken) : Cancellations :=
  ⟨t.name :: c.names⟩

/-- Whether a token has been cancelled. -/
def has (c : Cancellations) (t : CancellationToken) : Bool :=
  c.names.contains t.name

end Cancellations

end RecordQuery
