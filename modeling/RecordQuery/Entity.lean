import RecordQuery.Fields
import RecordQuery.Json.Basic
import RecordQuery.Value.Basic
import RecordQuery.Value.Json
import RecordQuery.Value.Text

/-!
# Entities and records

An `EntityType` says which fields the records of a kind have, which of them may be null and which
identify a record. A `Record` is what a query sees of one: its values by field name. A `Document` is a
record without a declared type, such as a JSON object.
-/

namespace RecordQuery

/-- A declared field. -/
structure FieldInfo where
  name : String
  /-- Whether the field can hold null. -/
  nullable : Bool := true
  /-- Whether the field is selected when a query names no fields. -/
  queryable : Bool := true
  deriving DecidableEq

/-- A declared field as JSON. -/
def FieldInfo.toJson (f : FieldInfo) : Json :=
  .object [("name", .string f.name), ("nullable", .bool f.nullable), ("queryable", .bool f.queryable)]

/-- A kind of record. -/
structure EntityType where
  name : String
  fields : List FieldInfo := []
  primaryKeys : List String := []
  versionField : Option String := none
  deriving DecidableEq

namespace EntityType

/-- Adds a field. -/
def withField (e : EntityType) (f : FieldInfo) : EntityType :=
  { e with fields := e.fields ++ [f] }

/-- Adds a field that is never null and belongs to the primary key. -/
def withKey (e : EntityType) (name : String) : EntityType :=
  { e.withField { name, nullable := false } with primaryKeys := e.primaryKeys ++ [name] }

/-- Names the field that holds the version of a record. -/
def withVersion (e : EntityType) (name : String) : EntityType :=
  { e with versionField := some name }

/-- The first declaration of a field. -/
def field? (e : EntityType) (name : String) : Option FieldInfo :=
  e.fields.find? (·.name == name)

/-- The fields selected when a query names none. -/
def queryFields (e : EntityType) : List String :=
  (e.fields.filter (·.queryable)).map (·.name)

/-- Whether a field can hold null. A field that is not declared can. -/
def isNullable (e : EntityType) (name : String) : Bool :=
  match e.field? name with
  | some f => f.nullable
  | none => true

/-- Whether two declarations are of one kind of record. The name decides. -/
def same (a b : EntityType) : Bool :=
  a.name == b.name

/-- A kind of record as JSON, which is its name. -/
def toJson (e : EntityType) : Json :=
  .string e.name

end EntityType

/-- The values of a record by field name, none for a field that it does not have. -/
abbrev Record := String → Option Value

/-- The value of a field. A missing field counts as null. -/
def Record.value (r : Record) (field : String) : Value :=
  (r field).getD .null

/-- A record without a declared type. -/
structure Document where
  fields : Fields Value

namespace Document

/-- The document without fields. -/
def empty : Document := ⟨[]⟩

/-- Sets a field. -/
def insert (d : Document) (name : String) (v : Value) : Document :=
  ⟨d.fields.insert name v⟩

/-- The document with these fields. Of several values for one field the last counts. -/
def ofPairs (pairs : List (String × Value)) : Document :=
  ⟨Fields.ofList pairs⟩

/-- The value of a field. -/
def get? (d : Document) (name : String) : Option Value :=
  d.fields.get? name

/-- The document as a record. -/
def record (d : Document) : Record :=
  d.get?

/-- The fields as one value. -/
def value (d : Document) : Value :=
  .map d.fields

/-- The document as text, which is that of its map of fields. -/
def text (d : Document) : String :=
  d.value.text

/-- The document as JSON. -/
def toJson (d : Document) : Json :=
  d.value.toJson

/-- The document of a JSON object. -/
def ofJson? : Json → Option Document
  | .object members => some (ofPairs (Value.decodeMembers members))
  | _ => none

end Document

end RecordQuery
