import RecordQuery.Config
import RecordQuery.Lambda.Parser
import RecordQuery.Query.Translation

/-!
# Managing queries

A `Manager` knows which entity type each query model reads, and the providers of global conditions,
such as a filter on the tenant. `Manager.applyGlobal` asks every provider once, all with the query as
it was, and then merges what they return.
-/

namespace RecordQuery

/-- What a query is about to be used for. -/
inductive UsageScene
  | query
  | update
  | delete
  | display
  deriving DecidableEq, Repr

/-- What a provider of global conditions goes by. -/
structure GlobalContext where
  entity : EntityType
  scene : UsageScene
  /-- The component that issues the query, if it is known. -/
  source : Option String
  query : Query

/-- A query to merge into another. -/
structure GlobalCondition where
  connector : Connector
  query : Query

/-- A source of global conditions. -/
abbrev GlobalProvider := GlobalContext → Option GlobalCondition

/-- Entity types by the query models that read them, and the sources of global conditions. -/
structure Manager where
  config : Config := {}
  bindings : Fields EntityType := []
  providers : List GlobalProvider := []

namespace Manager

/-- Binds a query model to the entity type that it reads. -/
def bind (m : Manager) (model : String) (e : EntityType) : Manager :=
  { m with bindings := m.bindings.insert model e }

/-- Adds a source of global conditions. -/
def addProvider (m : Manager) (p : GlobalProvider) : Manager :=
  { m with providers := m.providers ++ [p] }

/-- The entity type that a query model reads. -/
def entityOf (m : Manager) (model : String) : Except QueryError EntityType :=
  match m.bindings.get? model with
  | some e => .ok e
  | none => .error (.missingBinding model)

/-- A query bound to no entity type. -/
def create (m : Manager) : Query :=
  Query.empty.setCopies m.config.copies

/-- A query for a model. -/
def createFor (m : Manager) (model : String) : Except QueryError Query :=
  (m.entityOf model).map m.create.setEntity

/-- A query for a model with the condition of a lambda. -/
def createWith (m : Manager) (model : String) (l : Lambda) : Except QueryError Query :=
  match m.createFor model with
  | .error e => .error e
  | .ok q =>
    match (Query.addLambda .and l).run q with
    | .ok _ q => .ok q
    | .error e _ => .error e

/-- A query for a model with the condition of a lambda in text. -/
def createFromText (m : Manager) (model text : String) (bindings : Fields Value) :
    Except QueryError Query :=
  match Lambda.parse text bindings with
  | .error e => .error (.parse e)
  | .ok l => m.createWith model l

/-- The conditions that the providers return. -/
def conditions (m : Manager) (context : GlobalContext) : List GlobalCondition :=
  m.providers.filterMap (· context)

/-- A query with a global condition, unless that has no entries. -/
def merge (q : Query) (c : GlobalCondition) : Query :=
  if c.query.entries.isEmpty then q else q.addTree c.connector c.query

/-- Merges the global conditions into a query, which happens once. A query that is bound to no entity
type is left alone. How a provider is asked is left open (`ask`), so that it can be watched. -/
def applyGlobalBy {M : Type → Type} [Monad M]
    (ask : GlobalProvider → GlobalContext → M (Option GlobalCondition)) (m : Manager)
    (scene : UsageScene) (source : Option String) (q : Query) : M Query :=
  if q.settings.globalApplied then pure q
  else
    match q.entity with
    | none => pure q
    | some entity => do
      let context : GlobalContext := { entity, scene, source, query := q }
      let conditions ← m.providers.filterMapM fun p => ask p context
      pure ((conditions.foldl merge q).configure fun s => { s with globalApplied := true })

/-- Merges the global conditions into a query, which happens once. -/
def applyGlobal (m : Manager) (scene : UsageScene) (source : Option String) (q : Query) : Query :=
  Id.run (m.applyGlobalBy (fun p context => pure (p context)) scene source q)

end Manager

end RecordQuery
