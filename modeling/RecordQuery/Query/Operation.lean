import RecordQuery.Manager

/-!
# Operations on queries

An `Operation` is a change to a query as a value. `Operation.perform` carries it out. A history of a
query is a list of operations (`Query.after`), in which one that fails counts for what it did before it
failed.
-/

namespace RecordQuery

/-- A change to a query. -/
inductive Operation where
  /-- A comparison with a value. -/
  | literal (connector : Connector) (field : String) (operator : Comparison) (v : Value)
      (converter : Option Converter)
  /-- A comparison of several fields with a value. -/
  | group (connector groupConnector : Connector) (operator : Comparison) (v : Value)
      (converter : Option Converter) (fields : List String)
  /-- A comparison with an operand. -/
  | criterion (connector : Connector) (field : String) (operator : Comparison) (operand : Operand)
      (converter : Option Converter)
  /-- A comparison with the results of a query. -/
  | subquery (connector : Connector) (field : String) (operator : Comparison) (query : Query)
      (converter : Option Converter)
  | item (connector : Connector) (item : Item Query)
  /-- A nested query. -/
  | tree (connector : Connector) (q : Query)
  /-- The condition of a lambda. -/
  | lambda (connector : Connector) (l : Lambda)
  /-- The primary key of a record. -/
  | identity (e : EntityType) (record : Record)
  /-- The global conditions of a manager. -/
  | global (m : Manager) (scene : UsageScene) (source : Option String)
  | join (kind : JoinKind) (operator : JoinOperator) (fields : List JoinField) (target : Query)
      (filter : Option Query)
  | joinAll (kind : JoinKind) (operator : JoinOperator) (fields : List JoinField)
      (targets : List Query)
  | combine (kind : CombineKind) (q : Query)
  | recurve (key relationKey : String) (direction : Direction)
  | orderBy (field : String) (descending : Bool) (converter : Option Converter)
  | clearSort
  | queryFields (fields : List String)
  | notQueryFields (fields : List String)
  | clearQueryFields
  | paging (page pageSize : Nat)
  | clearPaging
  | text (text : String) (parameters : Fields Value)
  | copies (copies : Bool)
  | obsolete (obsolete : Bool)
  | entity (e : EntityType)
  | token (t : CancellationToken)

namespace Operation

/-- Carries out an operation on the query under construction. -/
def perform : Operation → Builder Unit
  | literal connector field operator v converter =>
    modify (·.addLiteral connector field operator v converter)
  | group connector groupConnector operator v converter fields =>
    modify (·.addGroup connector groupConnector operator v converter fields)
  | criterion connector field operator operand converter =>
    Query.addCriterion connector field operator operand converter
  | subquery connector field operator query converter =>
    Query.addSubqueryOn connector field operator query converter
  | item connector x => Query.addItem connector x
  | tree connector q => modify (·.addTree connector q)
  | lambda connector l => Query.addLambda connector l
  | identity e record => Query.addIdentity e record
  | global m scene source => modify (m.applyGlobal scene source)
  | join kind operator fields target filter => Query.join kind operator fields target filter
  | joinAll kind operator fields targets => Query.joinAll kind operator fields targets
  | combine kind q => modify (·.combine kind q)
  | recurve key relationKey direction => Query.setRecurve key relationKey direction
  | orderBy field descending converter => modify (·.orderBy field descending converter)
  | clearSort => modify (·.clearSort)
  | queryFields fields => modify (·.addQueryFields fields)
  | notQueryFields fields => modify (·.addNotQueryFields fields)
  | clearQueryFields => modify (·.clearQueryFields)
  | paging page pageSize => modify (·.setPaging page pageSize)
  | clearPaging => modify (·.clearPaging)
  | text t parameters => modify (·.setText t parameters)
  | copies b => modify (·.setCopies b)
  | obsolete b => modify (·.setObsolete b)
  | entity e => modify (·.setEntity e)
  | token t => modify (·.setToken t)

/-- The error that an operation ends with, if any, and the query after it. -/
def outcome (op : Operation) (q : Query) : Option QueryError × Query :=
  match op.perform.run q with
  | .ok _ q => (none, q)
  | .error e q => (some e, q)

end Operation

/-- The query after a history of operations. -/
def Query.after (q : Query) (history : List Operation) : Query :=
  history.foldl (fun q op => (op.outcome q).2) q

end RecordQuery
