import RecordQuery.Expr.Text
import RecordQuery.Lambda.ParseError

/-!
# Errors of queries

Why a query cannot be built, translated or created. `QueryError.message` is the wording.
-/

namespace RecordQuery

/-- What needs a query that is bound to an entity type. -/
inductive EntityNeed
  /-- A tree with a subquery on a field. -/
  | subquery (field : String)
  | keyValues
  | joinTarget

/-- The wording of a need. -/
def EntityNeed.message : EntityNeed → String
  | subquery field => "subquery on field `" ++ field ++ "`"
  | keyValues => "key values"
  | joinTarget => "join target"

/-- What is wrong with the keys of a recursive query. -/
inductive RecurveFault
  | blankKey
  /-- Both keys are the same. -/
  | sameKey (key : String)

/-- The wording of a fault in keys. -/
def RecurveFault.message : RecurveFault → String
  | blankKey => "key and relation key must not be blank"
  | sameKey key => "key and relation key are both `" ++ key ++ "`"

/-- Why an expression is not a condition on records. -/
inductive Malformed
  | notACondition (e : Expr)
  | noField (left right : Expr)
  | method (name : String)
  /-- Only some conditions can stand behind `!`. -/
  | notNegatable (e : Expr)
  /-- A group, given by its text, cannot be negated. -/
  | groupNotNegatable (text : String)
  | notAField (e : Expr) (parameter : String)
  | valueUsesParameter (e : Expr) (parameter : String)
  | collectionUsesParameter (e : Expr) (parameter : String)
  | notACollection (e : Expr)

/-- The wording of a fault in an expression. -/
def Malformed.message : Malformed → String
  | notACondition e => "`" ++ e.text ++ "` is not a condition"
  | noField left right => "neither `" ++ left.text ++ "` nor `" ++ right.text ++ "` is a field"
  | method name => "method `" ++ name ++ "` cannot be translated"
  | notNegatable e => "`!" ++ e.text ++ "` cannot be negated"
  | groupNotNegatable text => "group `" ++ text ++ "` cannot be negated"
  | notAField e parameter => "`" ++ e.text ++ "` is not a field of `" ++ parameter ++ "`"
  | valueUsesParameter e parameter =>
    "value `" ++ e.text ++ "` depends on `" ++ parameter ++ "`"
  | collectionUsesParameter e parameter =>
    "collection `" ++ e.text ++ "` depends on `" ++ parameter ++ "`"
  | notACollection e => "`" ++ e.text ++ "` is not a collection"

/-- The number of joins that a query can hold. -/
def maxJoins : Nat := 65535

/-- Why an operation on queries fails. -/
inductive QueryError
  /-- No entity type is bound to a model. -/
  | missingBinding (model : String)
  /-- A query is not bound to an entity type. -/
  | missingEntity (need : EntityNeed)
  /-- An entity type has no primary key. -/
  | missingPrimaryKeys (entity : String)
  | tooManyJoins
  | invalidRecurve (fault : RecurveFault)
  | malformed (fault : Malformed)
  | parse (e : ParseError)

/-- The wording of an error. -/
def QueryError.message : QueryError → String
  | missingBinding model => "no entity type is bound to query model `" ++ model ++ "`"
  | missingEntity need => need.message ++ ": query is not bound to an entity type"
  | missingPrimaryKeys entity => "entity `" ++ entity ++ "` does not declare any primary key"
  | tooManyJoins => "a query holds at most " ++ Decimal.natText maxJoins ++ " joins"
  | invalidRecurve fault => "invalid recurve criteria: " ++ fault.message
  | malformed fault => "expression is not well formed: " ++ fault.message
  | parse e => e.message

end RecordQuery
