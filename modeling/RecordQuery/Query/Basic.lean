import RecordQuery.Attachment

/-!
# Queries

A `Query` is a list of entries, each an item with the connector to what is before it. An item is a
condition, a subquery condition or a nested query. Entries are taken from left to right: `a AND b OR c`
means `(a AND b) OR c`, and the first connector means nothing.

A query also carries joins and combinations with other queries, a `Summary` of its conditions that is
kept as they are added, and `Settings` that hold no other query.
-/

namespace RecordQuery

/-- A comparison of a field with the results of a query. -/
structure SubqueryCondition (Q : Type) where
  field : String
  operator : Comparison
  query : Q
  converter : Option Converter := none

/-- What an entry of a query holds. -/
inductive Item (Q : Type) where
  | condition (c : Condition)
  | subquery (c : SubqueryCondition Q)
  | tree (q : Q)

/-- An item with its connector to what is before it. -/
structure Entry (Q : Type) where
  connector : Connector
  item : Item Q

/-- A join with another query. -/
structure Join (Q : Type) where
  /-- The place of the join among those of its query, from 1. -/
  ordinal : Nat
  kind : JoinKind
  operator : JoinOperator
  fields : List JoinField
  target : Q
  /-- A filter on the joined rows. -/
  filter : Option Q

/-- The queries of a join: its target and its filter. -/
def Join.queries {Q : Type} (j : Join Q) : List Q :=
  j.target :: j.filter.toList

/-- A combination with the result of another query. -/
structure Combine (Q : Type) where
  kind : CombineKind
  query : Q

/-- What is known of the conditions of a query without looking through it. -/
structure Summary where
  /-- The number of conditions, with those of nested queries. -/
  count : Nat := 0
  /-- The fields of the conditions, with those of nested queries, in order. -/
  fields : List String := []
  /-- Conditions of equality that every match of the query meets. -/
  equalities : List Condition := []
  /-- Whether there is a subquery. -/
  hasSubquery : Bool := false
  /-- Whether there is a join. -/
  hasJoin : Bool := false
  /-- Whether there is a recursive walk. -/
  hasRecurve : Bool := false

/-- What a query carries besides conditions and other queries. -/
structure Settings where
  recurve : Option Recurve := none
  sorts : List SortKey := []
  queryFields : List String := []
  notQueryFields : List String := []
  paging : Option Paging := none
  text : Option QueryText := none
  entity : Option EntityType := none
  token : Option CancellationToken := none
  /-- Whether queries are copied before they are attached. -/
  copies : Bool := true
  obsolete : Bool := false
  /-- Whether the global conditions have been merged. -/
  globalApplied : Bool := false
  /-- The ordinal of the last join. -/
  lastJoin : Nat := 0

/-- A query. -/
structure Query where
  entries : List (Entry Query)
  joins : Array (Join Query)
  combines : List (Combine Query)
  summary : Summary
  settings : Settings

namespace Query

/-- The query without conditions, bound to no entity type. -/
def empty : Query := ⟨[], #[], [], {}, {}⟩

instance : Inhabited Query := ⟨empty⟩

/-- The query without conditions, bound to an entity type. -/
def forEntity (e : EntityType) : Query :=
  { empty with settings := { entity := some e } }

/-- The entity type that the query is bound to. -/
def entity (q : Query) : Option EntityType :=
  q.settings.entity

/-- Whether the query can only be evaluated by a database. -/
def isComplex (q : Query) : Bool :=
  q.summary.hasSubquery || q.summary.hasJoin || q.summary.hasRecurve

/-- The connector of the next entry as it counts. The first entry has nothing to be connected to. -/
def effective (q : Query) (connector : Connector) : Connector :=
  if q.entries.isEmpty then .and else connector

mutual

/-- The subqueries in the conditions of the query and of its nested queries. -/
def subqueries : Query → List Query
  | ⟨entries, _, _, _, _⟩ => subqueriesOfEntries entries

/-- The subqueries in entries. -/
def subqueriesOfEntries : List (Entry Query) → List Query
  | [] => []
  | ⟨_, item⟩ :: rest => subqueriesOfItem item ++ subqueriesOfEntries rest

/-- The subqueries in an item. -/
def subqueriesOfItem : Item Query → List Query
  | .condition _ => []
  | .subquery c => [c.query]
  | .tree q => subqueries q

end

/-- The values that equality conditions fix a field to. -/
def fixedValues (q : Query) (field : String) : List Value :=
  (q.summary.equalities.filter (·.field == field)).map (·.value)

/-- The values of these keys, if each is fixed to exactly one. -/
def keyValuesOf? (q : Query) : List String → Option (Fields Value)
  | [] => some []
  | key :: keys =>
    match q.fixedValues key with
    | [v] => (q.keyValuesOf? keys).map (Fields.insert key v ·)
    | _ => none

/-- The primary key that every match of the query has, if there is one. -/
def keyValues (q : Query) : Except QueryError (Option (Fields Value)) :=
  match q.entity with
  | none => .error (.missingEntity .keyValues)
  | some e =>
    if e.primaryKeys.isEmpty then .error (.missingPrimaryKeys e.name)
    else .ok (q.keyValuesOf? e.primaryKeys)

/-- The fields to select: those that the query names, or else those of its entity type, without those
that it excludes. -/
def selectedFields (q : Query) : List String :=
  let candidates :=
    if q.settings.queryFields.isEmpty then (q.entity.map (·.queryFields)).getD []
    else q.settings.queryFields
  candidates.filter fun field => !q.settings.notQueryFields.contains field

end Query

end RecordQuery
