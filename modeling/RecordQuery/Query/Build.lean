import RecordQuery.Query.Clone

/-!
# Building queries

Every condition, subquery and nested query is appended by `Query.push`, which adds the entry and merges
the summary of its item into that of the query (`Summary.add`). An `OR` forgets the equalities that were
fixed before it.

Operations that cannot fail are functions from queries to queries. Those that can fail are programs of
the `Builder` monad, whose state is the query under construction. A program that fails leaves the
query as it was when it failed.
-/

namespace RecordQuery

/-- Adds a name to names in order, unless it is there. -/
def insertName (name : String) : List String → List String
  | [] => [name]
  | n :: rest =>
    if name < n then name :: n :: rest
    else if name = n then n :: rest
    else n :: insertName name rest

/-- All names of two lists in order. -/
def mergeNames (names more : List String) : List String :=
  more.foldl (fun acc name => insertName name acc) names

/-- Adds the names that are not blank and not there yet, without the blanks around them. -/
def addNames (names more : List String) : List String :=
  more.foldl
    (fun acc name =>
      let name := Text.trim name
      if name.isEmpty || acc.contains name then acc else acc ++ [name])
    names

/-- The summary of conditions followed by more, which are summarized in `part`. After an `OR` no
equality holds for certain. -/
def Summary.add (s : Summary) (connector : Connector) (part : Summary) : Summary where
  count := s.count + part.count
  fields := mergeNames s.fields part.fields
  equalities :=
    match connector with
    | .and => s.equalities ++ part.equalities
    | .or => []
  hasSubquery := s.hasSubquery || part.hasSubquery
  hasJoin := s.hasJoin || part.hasJoin
  hasRecurve := s.hasRecurve || part.hasRecurve

/-- What a condition contributes to the summary of its query. -/
def Condition.summary (c : Condition) : Summary where
  count := 1
  fields := [c.field]
  equalities := if c.operator = .equal then [c] else []

/-- What a subquery contributes to the summary of its query. Its conditions are its own. -/
def SubqueryCondition.summary (c : SubqueryCondition Query) : Summary where
  count := 1
  fields := [c.field]
  hasSubquery := true
  hasJoin := c.query.summary.hasJoin
  hasRecurve := c.query.summary.hasRecurve

/-- What an item contributes to the summary of its query. -/
def Item.summary : Item Query → Summary
  | .condition c => c.summary
  | .subquery c => c.summary
  | .tree q => q.summary

/-- A program that builds a query and may fail. -/
abbrev Builder := EStateM QueryError Query

namespace Query

/-- Appends an item as it is. -/
def push (q : Query) (connector : Connector) (item : Item Query) : Query :=
  { q with
    entries := q.entries ++ [⟨connector, item⟩]
    summary := q.summary.add (q.effective connector) item.summary }

/-- A query handed over for attachment: a copy of it, unless copying is switched off. -/
def taken (q : Query) (other : Query) : Query :=
  if q.settings.copies then other.deepClone else other

/-- Appends a condition. -/
def addCondition (q : Query) (connector : Connector) (c : Condition) : Query :=
  q.push connector (.condition c.settled)

/-- Appends a nested query. -/
def addTree (q : Query) (connector : Connector) (tree : Query) : Query :=
  q.push connector (.tree (q.taken tree))

/-- Appends a comparison of a field with a value. A blank field is ignored. -/
def addLiteral (q : Query) (connector : Connector) (field : String) (operator : Comparison)
    (v : Value) (converter : Option Converter := none) : Query :=
  if Text.allBlank field then q
  else q.addCondition connector { field, operator, operand := .literal v, converter }

/-- The query that compares each of several fields with one value. -/
def group (connector : Connector) (operator : Comparison) (v : Value) (converter : Option Converter)
    (fields : List String) : Query :=
  fields.foldl (fun q field => q.addLiteral connector field operator v converter) empty

/-- Appends a comparison of several fields with one value as a nested query, unless all fields are
blank. -/
def addGroup (q : Query) (connector groupConnector : Connector) (operator : Comparison) (v : Value)
    (converter : Option Converter) (fields : List String) : Query :=
  let tree := group groupConnector operator v converter fields
  if tree.entries.isEmpty then q else q.push connector (.tree tree)

/-- The query with a field to select, if it names none. -/
def selecting (q : Query) (field : String) : Query :=
  if q.settings.queryFields.isEmpty then
    { q with settings := { q.settings with queryFields := [field] } }
  else q

/-- Appends a comparison of a field with the results of a query. The tree must be bound to an entity
type. -/
def addSubquery (connector : Connector) (c : SubqueryCondition Query) : Builder Unit := do
  if (← get).entity.isNone then throw (.missingEntity (.subquery c.field))
  modify fun q => q.push connector (.subquery { c with query := (q.taken c.query).selecting c.field })

/-- Appends an item. -/
def addItem (connector : Connector) : Item Query → Builder Unit
  | .condition c => modify (·.addCondition connector c)
  | .subquery c => addSubquery connector c
  | .tree tree => modify (·.addTree connector tree)

/-- Appends a comparison of a field with an operand. A blank field is ignored. -/
def addCriterion (connector : Connector) (field : String) (operator : Comparison) (operand : Operand)
    (converter : Option Converter := none) : Builder Unit :=
  if Text.allBlank field then pure ()
  else addItem connector (.condition { field, operator, operand, converter })

/-- Appends a comparison of a field with the results of a query. A blank field is ignored. -/
def addSubqueryOn (connector : Connector) (field : String) (operator : Comparison) (query : Query)
    (converter : Option Converter := none) : Builder Unit :=
  if Text.allBlank field then pure ()
  else addItem connector (.subquery { field, operator, query, converter })

/-- Appends a condition of equality for each field of the primary key of an entity type, with the
values of a record. -/
def addIdentity (e : EntityType) (record : Record) : Builder Unit := do
  if e.primaryKeys.isEmpty then throw (.missingPrimaryKeys e.name)
  e.primaryKeys.forM fun key => modify (·.addLiteral .and key .equal (record.value key))

/-- The query with one more join, whose target is taken over as it is. -/
def withJoin (q : Query) (kind : JoinKind) (operator : JoinOperator) (fields : List JoinField)
    (target : Query) (filter : Option Query) : Query :=
  let ordinal := q.settings.lastJoin + 1
  let join : Join Query := { ordinal, kind, operator, fields, target, filter }
  { q with
    joins := q.joins.push join
    summary :=
      { q.summary with
        hasJoin := true
        hasSubquery := q.summary.hasSubquery || join.queries.any (·.summary.hasSubquery)
        hasRecurve := q.summary.hasRecurve || join.queries.any (·.summary.hasRecurve) }
    settings := { q.settings with lastJoin := ordinal } }

/-- Joins a query that is bound to an entity type. -/
def join (kind : JoinKind) (operator : JoinOperator) (fields : List JoinField) (target : Query)
    (filter : Option Query := none) : Builder Unit := do
  if target.entity.isNone then throw (.missingEntity .joinTarget)
  if (← get).settings.lastJoin = maxJoins then throw .tooManyJoins
  modify fun q => q.withJoin kind operator fields (q.taken target) filter

/-- Joins several queries by the same fields. The joins before one that fails stay. -/
def joinAll (kind : JoinKind) (operator : JoinOperator) (fields : List JoinField)
    (targets : List Query) : Builder Unit :=
  targets.forM fun target => join kind operator fields target

/-- Combines the result with that of another query. -/
def combine (q : Query) (kind : CombineKind) (other : Query) : Query :=
  { q with combines := q.combines ++ [⟨kind, q.taken other⟩] }

/-- Makes the query walk a hierarchy. -/
def setRecurve (key relationKey : String) (direction : Direction) : Builder Unit := do
  match Recurve.make key relationKey direction with
  | .error fault => throw (.invalidRecurve fault)
  | .ok recurve =>
    modify fun q =>
      { q with
        summary := { q.summary with hasRecurve := true }
        settings := { q.settings with recurve := some recurve } }

/-- Changes the settings. -/
def configure (q : Query) (f : Settings → Settings) : Query :=
  { q with settings := f q.settings }

/-- Appends a sort key. A blank field is ignored. -/
def orderBy (q : Query) (field : String) (descending : Bool) (converter : Option Converter := none) :
    Query :=
  if Text.allBlank field then q
  else q.configure fun s => { s with sorts := s.sorts ++ [{ field, descending, converter }] }

/-- Drops the sort keys. -/
def clearSort (q : Query) : Query :=
  q.configure fun s => { s with sorts := [] }

/-- Adds fields to select. -/
def addQueryFields (q : Query) (fields : List String) : Query :=
  q.configure fun s => { s with queryFields := addNames s.queryFields fields }

/-- Adds fields to leave out. -/
def addNotQueryFields (q : Query) (fields : List String) : Query :=
  q.configure fun s => { s with notQueryFields := addNames s.notQueryFields fields }

/-- Drops the fields to select and to leave out. -/
def clearQueryFields (q : Query) : Query :=
  q.configure fun s => { s with queryFields := [], notQueryFields := [] }

/-- Selects a page of the result. -/
def setPaging (q : Query) (page pageSize : Nat) : Query :=
  q.configure fun s => { s with paging := some (.make page pageSize) }

/-- Selects the whole result. -/
def clearPaging (q : Query) : Query :=
  q.configure fun s => { s with paging := none }

/-- Sets a text to execute in place of the query. -/
def setText (q : Query) (text : String) (parameters : Fields Value) : Query :=
  q.configure fun s => { s with text := some ⟨text, parameters⟩ }

/-- Switches the copying of queries before they are attached. -/
def setCopies (q : Query) (copies : Bool) : Query :=
  q.configure fun s => { s with copies }

/-- Marks the query as obsolete or not. -/
def setObsolete (q : Query) (obsolete : Bool) : Query :=
  q.configure fun s => { s with obsolete }

/-- Binds the query to an entity type. -/
def setEntity (q : Query) (e : EntityType) : Query :=
  q.configure fun s => { s with entity := some e }

/-- Sets the token by which the query is cancelled. -/
def setToken (q : Query) (t : CancellationToken) : Query :=
  q.configure fun s => { s with token := some t }

end Query

end RecordQuery
