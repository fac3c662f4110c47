import RecordQuery.Proofs.Query.Clone
import RecordQuery.Query.Translation

/-!
# What the operations on a query do

One equation for each way to build a query. The operations that append anything come down to
`Query.push` of the item as it is attached (`Item.attached`): a condition with its value read, a
subquery with a field to select, a nested query as it is. An operation that fails gives the query back
as it was.
-/

namespace RecordQuery

/-- An item as it stands in the query that it is appended to. -/
def Item.attached : Item Query → Item Query
  | .condition c => .condition c.settled
  | .subquery c => .subquery { c with query := c.query.selecting c.field }
  | .tree q => .tree q

namespace Query

theorem addTree_eq (q tree : Query) (connector : Connector) :
    q.addTree connector tree = q.push connector (.tree tree) := by
  rw [addTree, taken_eq]

theorem addLiteral_eq (q : Query) (connector : Connector) (field : String) (operator : Comparison)
    (v : Value) (converter : Option Converter) :
    q.addLiteral connector field operator v converter =
      if Text.allBlank field then q
      else q.push connector
        (.condition (Condition.settled { field, operator, operand := .literal v, converter })) := rfl

theorem combine_eq (q other : Query) (kind : CombineKind) :
    q.combine kind other = { q with combines := q.combines ++ [⟨kind, other⟩] } := by
  rw [combine, taken_eq]

/-- The query with a recursive walk, in place of the one that it may have. -/
def withRecurve (q : Query) (recurve : Recurve) : Query :=
  { q with
    summary := { q.summary with hasRecurve := true }
    settings := { q.settings with recurve := some recurve } }

/-! ## Operations that may fail -/

theorem run_forM_modify {α : Type} (f : α → Query → Query) (xs : List α) (q : Query) :
    (xs.forM fun x => modify (f x) : Builder Unit).run q = .ok () (xs.foldl (fun q x => f x q) q) := by
  induction xs generalizing q with
  | nil => rfl
  | cons x xs ih => exact ih (f x q)

theorem run_addSubquery (connector : Connector) (c : SubqueryCondition Query) (q : Query) :
    (addSubquery connector c).run q =
      if q.entity = none then .error (.missingEntity (.subquery c.field)) q
      else .ok () (q.push connector (Item.attached (.subquery c))) := by
  cases h : q.entity <;> simp [addSubquery, Item.attached, h]

theorem run_addItem (connector : Connector) (item : Item Query) (q : Query) :
    (addItem connector item).run q =
      match item with
      | .subquery c =>
        if q.entity = none then .error (.missingEntity (.subquery c.field)) q
        else .ok () (q.push connector item.attached)
      | _ => .ok () (q.push connector item.attached) := by
  cases item with
  | condition c => rfl
  | subquery c => exact run_addSubquery connector c q
  | tree t =>
    rw [addItem, EStateM.run_modify, addTree_eq]
    rfl

/-- An item that is no subquery can always be appended. -/
theorem run_addItem_of_not_subquery {item : Item Query} (h : ∀ c, item ≠ .subquery c)
    (connector : Connector) (q : Query) :
    (addItem connector item).run q = .ok () (q.push connector item.attached) := by
  rw [run_addItem]
  cases item with
  | subquery c => exact absurd rfl (h c)
  | condition c => rfl
  | tree t => rfl

theorem run_addCriterion (connector : Connector) (field : String) (operator : Comparison)
    (operand : Operand) (converter : Option Converter) (q : Query) :
    (addCriterion connector field operator operand converter).run q =
      if Text.allBlank field then .ok () q
      else .ok () (q.push connector
        (.condition (Condition.settled { field, operator, operand, converter }))) := by
  rw [addCriterion]
  split <;> rfl

theorem run_addSubqueryOn (connector : Connector) (field : String) (operator : Comparison)
    (query : Query) (converter : Option Converter) (q : Query) :
    (addSubqueryOn connector field operator query converter).run q =
      if Text.allBlank field then .ok () q
      else if q.entity = none then .error (.missingEntity (.subquery field)) q
      else .ok () (q.push connector
        (.subquery { field, operator, query := query.selecting field, converter })) := by
  rw [addSubqueryOn]
  split
  · rfl
  · exact run_addSubquery connector _ q

theorem run_addIdentity (e : EntityType) (record : Record) (q : Query) :
    (addIdentity e record).run q =
      if e.primaryKeys = [] then .error (.missingPrimaryKeys e.name) q
      else .ok () (e.primaryKeys.foldl
        (fun q key => q.addLiteral .and key .equal (record.value key)) q) := by
  by_cases h : e.primaryKeys = []
  · simp [addIdentity, h]
  · simp only [addIdentity, List.isEmpty_iff, h, ↓reduceIte]
    exact run_forM_modify _ _ q

theorem run_join (kind : JoinKind) (operator : JoinOperator) (fields : List JoinField)
    (target : Query) (filter : Option Query) (q : Query) :
    (join kind operator fields target filter).run q =
      if target.entity = none then .error (.missingEntity .joinTarget) q
      else if q.settings.lastJoin = maxJoins then .error .tooManyJoins q
      else .ok () (q.withJoin kind operator fields target filter) := by
  cases h : target.entity with
  | none => simp [join, h]
  | some e => by_cases hm : q.settings.lastJoin = maxJoins <;> simp [join, h, hm]

/-- Several queries are joined one after the other, up to the first that cannot be joined. -/
theorem run_joinAll_cons (kind : JoinKind) (operator : JoinOperator) (fields : List JoinField)
    (target : Query) (targets : List Query) (q : Query) :
    (joinAll kind operator fields (target :: targets)).run q =
      match (join kind operator fields target).run q with
      | .error e q => .error e q
      | .ok _ q => (joinAll kind operator fields targets).run q := by
  show (join kind operator fields target >>= fun _ => joinAll kind operator fields targets).run q = _
  rw [EStateM.run_bind]
  cases (join kind operator fields target).run q <;> rfl

theorem run_setRecurve (key relationKey : String) (direction : Direction) (q : Query) :
    (setRecurve key relationKey direction).run q =
      match Recurve.make key relationKey direction with
      | .error fault => .error (.invalidRecurve fault) q
      | .ok recurve => .ok () (q.withRecurve recurve) := by
  rw [setRecurve]
  cases Recurve.make key relationKey direction <;> rfl

/-- The condition of a lambda is appended as any other item, if the lambda has one. -/
theorem run_addLambda (connector : Connector) (l : Lambda) (q : Query) :
    (addLambda connector l).run q =
      match l.translate with
      | .error e => .error e q
      | .ok entry => (addItem connector entry.item).run q := by
  rw [addLambda]
  cases l.translate with
  | error e => rfl
  | ok entry =>
    simp only
    split
    · rename_i t ht
      rw [ht, run_addItem]
      rfl
    · rfl

end Query

end RecordQuery
