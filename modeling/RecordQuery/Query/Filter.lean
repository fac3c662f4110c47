import RecordQuery.Query.Basic

/-!
# Filtering and sorting records

`Query.keeps` decides whether a record meets the conditions of a query, and `Query.filter` and
`Query.sort` treat a list of records. A complex query, which needs a database, keeps nothing. The
entries are taken from left to right, and a query without entries keeps everything.

A nested query goes by its own entity type or else by that of the query around it. The type matters for
tests for null: a field that cannot be null is not tested.
-/

namespace RecordQuery

/-- Whether both values are strings that pass a test. -/
def TextTest.onValues (test : TextTest) (actual expected : Value) : Bool :=
  match actual, expected with
  | .string s, .string part => test.passes s part
  | _, _ => false

/-- Whether a value meets a comparison that denies no other. -/
def Comparison.meetsPositive (op : Comparison) (actual expected : Value) : Bool :=
  match op with
  | .equal => actual == expected
  | .lessThan => actual.compare expected == some .lt
  | .lessThanOrEqual =>
    actual.compare expected == some .lt || actual.compare expected == some .eq
  | .greaterThan => actual.compare expected == some .gt
  | .greaterThanOrEqual =>
    actual.compare expected == some .gt || actual.compare expected == some .eq
  | .isIn => actual.isIn expected
  | .like => TextTest.holds.onValues actual expected
  | .beginLike => TextTest.begins.onValues actual expected
  | .endLike => TextTest.ends.onValues actual expected
  | .isNull => actual.isNull
  | _ => false

/-- Whether a value meets a comparison. A comparison that denies another is its exact complement. -/
def Comparison.meets (op : Comparison) (actual expected : Value) : Bool :=
  if op.isNegative then !op.negate.meetsPositive actual expected
  else op.meetsPositive actual expected

/-- The result of a test for null on a field that cannot be null. -/
def Comparison.onRequired? (op : Comparison) (expected : Value) : Option Bool :=
  match op with
  | .isNull => some false
  | .notNull => some true
  | .equal => if expected.isNull then some false else none
  | .notEqual => if expected.isNull then some true else none
  | _ => none

/-- Whether a field can be null in records of an entity type, or of no declared type. -/
def nullableIn (entity : Option EntityType) (field : String) : Bool :=
  match entity with
  | some e => e.isNullable field
  | none => true

/-- Whether a record meets a comparison of a field with a value. -/
def keepsOn (entity : Option EntityType) (record : Record) (field : String) (op : Comparison)
    (expected : Value) : Bool :=
  match if nullableIn entity field then none else op.onRequired? expected with
  | some answer => answer
  | none => op.meets (record.value field) expected

/-- Whether a record meets a condition. -/
def Condition.keeps (c : Condition) (entity : Option EntityType) (record : Record) : Bool :=
  keepsOn entity record c.field c.operator c.value

/-- The order of two records by a sort key. -/
def SortKey.compare (k : SortKey) (a b : Record) : Ordering :=
  let ordering := (a.value k.field).sortCompare (b.value k.field)
  if k.descending then ordering.swap else ordering

namespace Query

mutual

/-- Whether a record meets the entries of a query. -/
def meets (entity : Option EntityType) (record : Record) : Query → Bool
  | ⟨entries, _, _, _, _⟩ => meetsEntries entity record entries

/-- Whether a record meets entries, of which the first has nothing before it. -/
def meetsEntries (entity : Option EntityType) (record : Record) : List (Entry Query) → Bool
  | [] => true
  | ⟨_, item⟩ :: rest => meetsMore entity record (meetsItem entity record item) rest

/-- Whether a record meets entries after others with a result. -/
def meetsMore (entity : Option EntityType) (record : Record) (before : Bool) :
    List (Entry Query) → Bool
  | [] => before
  | ⟨connector, item⟩ :: rest =>
    meetsMore entity record (connector.join before (meetsItem entity record item)) rest

/-- Whether a record meets an item. A subquery has no value in memory and counts as null. -/
def meetsItem (entity : Option EntityType) (record : Record) : Item Query → Bool
  | .condition c => c.keeps entity record
  | .subquery c => keepsOn entity record c.field c.operator .null
  | .tree q => meets (q.entity.or entity) record q

end

/-- Whether the query keeps a record. -/
def keeps (q : Query) (record : Record) : Bool :=
  !q.isComplex && q.meets q.entity record

/-- The records that the query keeps, in their order. -/
def filter {α : Type} (q : Query) (record : α → Record) (xs : List α) : List α :=
  xs.filter fun x => q.keeps (record x)

/-- The order of two records by several sort keys, the first that tells them apart deciding. -/
def compareBy (keys : List SortKey) (a b : Record) : Ordering :=
  keys.foldr (fun k rest => (k.compare a b).then rest) .eq

/-- The records in the order of the sort keys. Records that no key tells apart keep their order. -/
def sort {α : Type} (q : Query) (record : α → Record) (xs : List α) : List α :=
  xs.mergeSort fun a b => compareBy q.settings.sorts (record a) (record b) != .gt

end Query

end RecordQuery
