import RecordQuery.Proofs.Manager.Merge
import RecordQuery.Proofs.Query.Steps

/-!
# A light clone has lived without conditions

The light clone of a query is the query that the same history gives without the operations that add
conditions, global ones included: `Query.lightClone_after`. For one operation there are two cases. If it
adds conditions, the light clones before and after it are the same (`lightClone_of_addsConditions`). If
not, it does the same to the light clone as to the query, errors included (`outcome_lightClone`).
-/

namespace RecordQuery

/-- Whether all that an operation does is to add conditions. -/
def Operation.addsConditions : Operation → Bool
  | literal .. | group .. | criterion .. | subquery .. | item .. | tree .. | lambda .. | identity ..
  | global .. => true
  | _ => false

/-- The operations of a history that do not add conditions. -/
def withoutConditions (history : List Operation) : List Operation :=
  history.filter (!·.addsConditions)

namespace Query

variable {q : Query}

/-! ## Operations that add conditions -/

theorem lightClone_addLiteral (connector : Connector) (field : String) (operator : Comparison)
    (v : Value) (converter : Option Converter) :
    (q.addLiteral connector field operator v converter).lightClone = q.lightClone := by
  rw [addLiteral_eq]
  split
  · rfl
  · exact lightClone_push q connector _

theorem lightClone_addGroup (connector groupConnector : Connector) (operator : Comparison)
    (v : Value) (converter : Option Converter) (fields : List String) :
    (q.addGroup connector groupConnector operator v converter fields).lightClone =
      q.lightClone := by
  simp only [addGroup]
  split
  · rfl
  · exact lightClone_push q connector _

theorem lightClone_ran_addItem (connector : Connector) (item : Item Query) :
    (ran (addItem connector item) q).lightClone = q.lightClone := by
  have hrun := run_addItem connector item q
  split at hrun
  · split at hrun
    · rw [ran_of_error hrun]
    · rw [ran_of_ok hrun, lightClone_push]
  · rw [ran_of_ok hrun, lightClone_push]

theorem lightClone_ran_addCriterion (connector : Connector) (field : String)
    (operator : Comparison) (operand : Operand) (converter : Option Converter) :
    (ran (addCriterion connector field operator operand converter) q).lightClone =
      q.lightClone := by
  unfold addCriterion
  split
  · rfl
  · exact lightClone_ran_addItem connector _

theorem lightClone_ran_addSubqueryOn (connector : Connector) (field : String)
    (operator : Comparison) (query : Query) (converter : Option Converter) :
    (ran (addSubqueryOn connector field operator query converter) q).lightClone =
      q.lightClone := by
  unfold addSubqueryOn
  split
  · rfl
  · exact lightClone_ran_addItem connector _

theorem lightClone_ran_addLambda (connector : Connector) (l : Lambda) :
    (ran (addLambda connector l) q).lightClone = q.lightClone := by
  have hrun := run_addLambda connector l q
  split at hrun
  · rw [ran_of_error hrun]
  · rename_i entry _
    have hran : ran (addLambda connector l) q = ran (addItem connector entry.item) q := by
      rw [ran, hrun, ran]
    rw [hran, lightClone_ran_addItem]

theorem lightClone_ran_addIdentity (e : EntityType) (record : Record) :
    (ran (addIdentity e record) q).lightClone = q.lightClone := by
  have hrun := run_addIdentity e record q
  split at hrun
  · rw [ran_of_error hrun]
  · rw [ran_of_ok hrun]
    refine List.foldlRecOn (motive := fun q' : Query => q'.lightClone = q.lightClone) _ _ rfl
      fun q' hq' key _ => ?_
    rw [lightClone_addLiteral, hq']

/-- Conditions that a manager adds leave no more than others, as the mark is left behind too. -/
theorem lightClone_applyGlobal (m : Manager) (scene : UsageScene) (source : Option String) :
    (m.applyGlobal scene source q).lightClone = q.lightClone := by
  rcases q.idle_or_awaiting with hidle | ⟨e, he, hg⟩
  · rw [Manager.applyGlobal_of_idle hidle]
  · rw [Manager.applyGlobal_of_awaiting he hg, foldl_merge]
    obtain ⟨hj, hc, hs⟩ := q.withConditions_kept
      ((m.conditions ⟨e, scene, source, q⟩).filter (·.hasEntries))
    simp only [configure, lightClone, hj, hc, hs]

theorem lightClone_of_addsConditions {op : Operation} (hop : op.addsConditions = true) :
    (op.outcome q).2.lightClone = q.lightClone := by
  rw [outcome_eq_ran]
  cases op with
  | literal connector field operator v converter => exact lightClone_addLiteral ..
  | group connector groupConnector operator v converter fields => exact lightClone_addGroup ..
  | criterion connector field operator operand converter => exact lightClone_ran_addCriterion ..
  | subquery connector field operator query converter => exact lightClone_ran_addSubqueryOn ..
  | item connector x => exact lightClone_ran_addItem connector x
  | tree connector t => exact lightClone_push q connector _
  | lambda connector l => exact lightClone_ran_addLambda connector l
  | identity e record => exact lightClone_ran_addIdentity e record
  | global m scene source => exact lightClone_applyGlobal m scene source
  | _ => cases hop

/-! ## Other operations -/

/-- The light clone of the query that a program leaves. -/
def lightResult : EStateM.Result QueryError Query Unit → EStateM.Result QueryError Query Unit
  | .ok _ q => .ok () q.lightClone
  | .error e q => .error e q.lightClone

theorem run_join_lightClone (kind : JoinKind) (operator : JoinOperator) (fields : List JoinField)
    (target : Query) (filter : Option Query) :
    (join kind operator fields target filter).run q.lightClone =
      lightResult ((join kind operator fields target filter).run q) := by
  have hlast : q.lightClone.settings.lastJoin = q.settings.lastJoin := rfl
  rw [run_join, run_join, hlast]
  split
  · rfl
  · split
    · rfl
    · rw [lightResult, lightClone_withJoin]

/-- The joins before one that fails are the same, and so is the one that fails. -/
theorem run_joinAll_lightClone (kind : JoinKind) (operator : JoinOperator)
    (fields : List JoinField) (targets : List Query) :
    (joinAll kind operator fields targets).run q.lightClone =
      lightResult ((joinAll kind operator fields targets).run q) := by
  induction targets generalizing q with
  | nil => rfl
  | cons target targets ih =>
    rw [run_joinAll_cons, run_joinAll_cons, run_join_lightClone]
    cases (join kind operator fields target).run q with
    | error e q' => rfl
    | ok _ q' => exact ih

theorem run_setRecurve_lightClone (key relationKey : String) (direction : Direction) :
    (setRecurve key relationKey direction).run q.lightClone =
      lightResult ((setRecurve key relationKey direction).run q) := by
  rw [run_setRecurve, run_setRecurve]
  split
  · rfl
  · rw [lightResult, lightClone_withRecurve]

/-- What just changes the query may change its light clone in the same way. -/
theorem run_modify_lightClone {f : Query → Query} (h : (f q).lightClone = f q.lightClone) :
    (modify f : Builder Unit).run q.lightClone = lightResult ((modify f : Builder Unit).run q) :=
  congrArg (EStateM.Result.ok ()) h.symm

/-- Settings other than the recursive walk and the mark are changed alike. -/
theorem lightClone_configure {f : Settings → Settings}
    (hr : (f q.settings).recurve = q.settings.recurve)
    (hg : { f q.settings with globalApplied := false } =
      f { q.settings with globalApplied := false }) :
    (q.configure f).lightClone = q.lightClone.configure f := by
  rw [configure, lightClone_settings q hr, hg]
  rfl

theorem lightClone_orderBy (field : String) (descending : Bool) (converter : Option Converter) :
    (q.orderBy field descending converter).lightClone =
      q.lightClone.orderBy field descending converter := by
  unfold orderBy
  split
  · rfl
  · exact lightClone_configure rfl rfl

/-- An operation that adds no conditions does the same to the light clone, or fails in the same way. -/
theorem run_lightClone {op : Operation} (hop : op.addsConditions = false) :
    op.perform.run q.lightClone = lightResult (op.perform.run q) := by
  cases op with
  | join kind operator fields target filter => exact run_join_lightClone ..
  | joinAll kind operator fields targets => exact run_joinAll_lightClone ..
  | recurve key relationKey direction => exact run_setRecurve_lightClone ..
  | combine kind other =>
    refine run_modify_lightClone ?_
    simp only [combine_eq, lightClone_combine]
  | orderBy field descending converter =>
    exact run_modify_lightClone (lightClone_orderBy field descending converter)
  | clearSort | queryFields | notQueryFields | clearQueryFields | paging | clearPaging | text
  | copies | obsolete | entity | token =>
    exact run_modify_lightClone (lightClone_configure rfl rfl)
  | _ => cases hop

theorem outcome_lightClone {op : Operation} (hop : op.addsConditions = false) :
    op.outcome q.lightClone = ((op.outcome q).1, (op.outcome q).2.lightClone) := by
  unfold Operation.outcome
  rw [run_lightClone hop]
  cases op.perform.run q <;> rfl

/-! ## Histories -/

/-- Dropping the conditions of a query and leaving them out of its history come to the same. -/
theorem lightClone_after_eq (q : Query) (history : List Operation) :
    (q.after history).lightClone = q.lightClone.after (withoutConditions history) := by
  induction history generalizing q with
  | nil => rfl
  | cons op later ih =>
    have hafter := ih (op.outcome q).2
    cases hop : op.addsConditions with
    | true =>
      rw [lightClone_of_addsConditions hop] at hafter
      rw [withoutConditions, List.filter_cons_of_neg (by simp [hop])]
      exact hafter
    | false =>
      have hstep : (op.outcome q.lightClone).2 = (op.outcome q).2.lightClone := by
        rw [outcome_lightClone hop]
      rw [← hstep] at hafter
      rw [withoutConditions, List.filter_cons_of_pos (by simp [hop])]
      exact hafter

/-- The light clone of a query is the query that its history gives without the operations that add
conditions, and whatever is done later gives the same on both. -/
theorem lightClone_after (history : List Operation) :
    (empty.after history).lightClone = empty.after (withoutConditions history) ∧
      ∀ (later : List Operation) (op : Operation),
        op.outcome ((empty.after history).lightClone.after later) =
          op.outcome (empty.after (withoutConditions history ++ later)) := by
  have herased : (empty.after history).lightClone = empty.after (withoutConditions history) := by
    rw [lightClone_after_eq, lightClone_empty]
  refine ⟨herased, fun later op => ?_⟩
  rw [herased]
  unfold after
  rw [List.foldl_append]

end Query

end RecordQuery
