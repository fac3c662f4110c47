import Mathlib.Logic.Relation
import RecordQuery.Proofs.Query.Built
import RecordQuery.Query.Operation

/-!
# The steps that an operation takes

Whether it fails or not, every operation but the merge of global conditions takes some of the steps of
`Query.Step`, which are those of `Query.Built` (`Operation.steps`). A step only appends entries
(`Step.entries_prefix`) and leaves the mark of the global conditions alone (`Step.globalApplied_eq`).
-/

namespace RecordQuery

/-- The queries that an operation on a query takes up. Providers of global conditions are only asked
about a query that is bound and has no mark. -/
def Operation.queries (q : Query) : Operation → List Query
  | subquery _ _ _ query _ => [query]
  | item _ x => x.queries
  | tree _ t => [t]
  | global m scene source =>
    match q.settings.globalApplied, q.entity with
    | false, some e => (m.conditions { entity := e, scene, source, query := q }).map (·.query)
    | _, _ => []
  | join _ _ _ target filter => target :: filter.toList
  | joinAll _ _ _ targets => targets
  | combine _ other => [other]
  | _ => []

/-- Whether an operation is a merge of global conditions. -/
def Operation.isGlobal : Operation → Bool
  | global _ _ _ => true
  | _ => false

theorem Operation.eq_global_of_isGlobal {op : Operation} (h : op.isGlobal = true) :
    ∃ m scene source, op = .global m scene source := by
  cases op with
  | global m scene source => exact ⟨m, scene, source, rfl⟩
  | _ => cases h

namespace Query

open Translation

/-- One of the changes that operations come down to, with what they check before it. The queries that
are attached satisfy `P`. -/
inductive Step (P : Query → Prop) (q : Query) : Query → Prop
  | condition (connector : Connector) (c : Condition) :
      Step P q (q.push connector (.condition c.settled))
  | tree {t : Query} (ht : P t) (connector : Connector) : Step P q (q.push connector (.tree t))
  | subquery {c : SubqueryCondition Query} (hc : P c.query) (he : q.entity ≠ none)
      (connector : Connector) :
      Step P q (q.push connector (.subquery { c with query := c.query.selecting c.field }))
  | join {target : Query} {filter : Option Query} (ht : P target) (hf : ∀ f ∈ filter, P f)
      (he : target.entity ≠ none) (hm : q.settings.lastJoin ≠ maxJoins) (kind : JoinKind)
      (operator : JoinOperator) (fields : List JoinField) :
      Step P q (q.withJoin kind operator fields target filter)
  | combine {other : Query} (ho : P other) (kind : CombineKind) :
      Step P q { q with combines := q.combines ++ [⟨kind, other⟩] }
  | recurve {key relationKey : String} {direction : Direction} {recurve : Recurve}
      (hr : Recurve.make key relationKey direction = .ok recurve) :
      Step P q (q.withRecurve recurve)
  | adjust {s : Settings} (hs : Adjusts q.settings s)
      (hg : s.globalApplied = q.settings.globalApplied) : Step P q { q with settings := s }

/-- Some steps, one after the other. -/
abbrev Steps (P : Query → Prop) : Query → Query → Prop :=
  Relation.ReflTransGen (Step P)

variable {P : Query → Prop} {q q' : Query}

/-! ## What steps keep -/

namespace Step

theorem built (h : Step Built q q') (hq : Built q) : Built q' := by
  cases h with
  | condition connector c => exact hq.condition connector c
  | tree ht connector => exact hq.tree ht connector
  | subquery hc he connector => exact hq.subquery hc he connector
  | join ht hf he hm kind operator fields => exact hq.join ht hf he hm kind operator fields
  | combine ho kind => exact hq.combine ho kind
  | recurve hr => exact hq.recurve hr
  | adjust hs _ => exact hq.adjust hs

theorem globalApplied_eq (h : Step P q q') :
    q'.settings.globalApplied = q.settings.globalApplied := by
  cases h with
  | adjust _ hg => exact hg
  | _ => rfl

theorem entries_prefix (h : Step P q q') : q.entries <+: q'.entries := by
  cases h with
  | condition | tree | subquery => exact List.prefix_append _ _
  | join | combine | recurve | adjust => exact List.prefix_rfl

end Step

namespace Steps

theorem built (h : Steps Built q q') (hq : Built q) : Built q' := by
  induction h with
  | refl => exact hq
  | tail _ hs ih => exact hs.built ih

theorem globalApplied_eq (h : Steps P q q') :
    q'.settings.globalApplied = q.settings.globalApplied := by
  induction h with
  | refl => rfl
  | tail _ hs ih => exact hs.globalApplied_eq.trans ih

theorem entries_prefix (h : Steps P q q') : q.entries <+: q'.entries := by
  induction h with
  | refl => exact List.prefix_rfl
  | tail _ hs ih => exact ih.trans hs.entries_prefix

end Steps

/-! ## The query after a program -/

/-- The query after a program, which may have failed. -/
def ran (x : Builder Unit) (q : Query) : Query :=
  match x.run q with
  | .ok _ q => q
  | .error _ q => q

theorem outcome_eq_ran (op : Operation) (q : Query) : (op.outcome q).2 = ran op.perform q := by
  unfold Operation.outcome ran
  cases op.perform.run q <;> rfl

theorem ran_of_ok {x : Builder Unit} {q t : Query} (h : x.run q = .ok () t) : ran x q = t := by
  rw [ran, h]

theorem ran_of_error {x : Builder Unit} {q t : Query} {e : QueryError} (h : x.run q = .error e t) :
    ran x q = t := by
  rw [ran, h]

/-! ## The steps of each operation -/

namespace Steps

theorem addLiteral (q : Query) (connector : Connector) (field : String) (operator : Comparison)
    (v : Value) (converter : Option Converter) :
    Steps P q (q.addLiteral connector field operator v converter) := by
  rw [addLiteral_eq]
  split
  · exact .refl
  · exact .single (.condition connector _)

theorem addGroup (hb : ∀ t, Built t → P t) (connector groupConnector : Connector)
    (operator : Comparison) (v : Value) (converter : Option Converter) (fields : List String) :
    Steps P q (q.addGroup connector groupConnector operator v converter fields) := by
  simp only [Query.addGroup]
  split
  · exact .refl
  · exact .single (.tree (hb _ (.group ..)) connector)

/-- Attaching an item or failing to do so. -/
theorem ran_addItem {item : Item Query} (hi : ∀ t ∈ item.queries, P t) (connector : Connector) :
    Steps P q (ran (addItem connector item) q) := by
  cases item with
  | condition c => exact .single (.condition connector c)
  | tree t =>
    rw [ran_of_ok (run_addItem connector (.tree t) q)]
    exact .single (.tree (hi t (List.mem_singleton_self t)) connector)
  | subquery c =>
    show Steps P q (ran (addSubquery connector c) q)
    have hrun := run_addSubquery connector c q
    split at hrun
    · rw [ran_of_error hrun]
    · rename_i he
      rw [ran_of_ok hrun]
      exact .single (.subquery (hi c.query (List.mem_singleton_self c.query)) he connector)

theorem ran_addCriterion (connector : Connector) (field : String) (operator : Comparison)
    (operand : Operand) (converter : Option Converter) :
    Steps P q (ran (addCriterion connector field operator operand converter) q) := by
  have hrun := run_addCriterion connector field operator operand converter q
  split at hrun
  · rw [ran_of_ok hrun]
  · rw [ran_of_ok hrun]
    exact .single (.condition connector _)

theorem ran_addSubqueryOn {query : Query} (hquery : P query) (connector : Connector)
    (field : String) (operator : Comparison) (converter : Option Converter) :
    Steps P q (ran (addSubqueryOn connector field operator query converter) q) := by
  have hrun := run_addSubqueryOn connector field operator query converter q
  split at hrun
  · rw [ran_of_ok hrun]
  · split at hrun
    · rw [ran_of_error hrun]
    · rename_i he
      rw [ran_of_ok hrun]
      exact .single (.subquery (c := { field, operator, query, converter }) hquery he connector)

/-- The condition of a lambda is attached as one item, whose groups are built. -/
theorem ran_addLambda (hb : ∀ t, Built t → P t) (connector : Connector) (l : Lambda) :
    Steps P q (ran (addLambda connector l) q) := by
  have hrun := run_addLambda connector l q
  cases hl : l.translate with
  | error e =>
    rw [hl] at hrun
    rw [ran_of_error hrun]
  | ok entry =>
    obtain ⟨-, ht⟩ := translates_of_translate l.parameter l.body hl
    rw [hl] at hrun
    rw [ran_of_ok (hrun.trans (run_addItem_of_not_subquery ht.not_subquery connector q))]
    have hbuilt := Built.of_translates ht
    cases hitem : entry.item with
    | condition c => exact .single (.condition connector c)
    | subquery c => exact absurd hitem (ht.not_subquery c)
    | tree t => exact .single (.tree (hb t (hbuilt t hitem)) connector)

theorem ran_addIdentity (e : EntityType) (record : Record) :
    Steps P q (ran (addIdentity e record) q) := by
  have hrun := run_addIdentity e record q
  split at hrun
  · rw [ran_of_error hrun]
  · rw [ran_of_ok hrun]
    exact List.foldlRecOn _ _ .refl fun _ h _ _ => h.trans (addLiteral ..)

theorem ran_join {target : Query} {filter : Option Query} (ht : P target) (hf : ∀ f ∈ filter, P f)
    (kind : JoinKind) (operator : JoinOperator) (fields : List JoinField) :
    Steps P q (ran (Query.join kind operator fields target filter) q) := by
  have hrun := run_join kind operator fields target filter q
  split at hrun
  · rw [ran_of_error hrun]
  · rename_i he
    split at hrun
    · rw [ran_of_error hrun]
    · rename_i hm
      rw [ran_of_ok hrun]
      exact .single (.join ht hf he hm kind operator fields)

/-- Joining several queries takes some steps and may then stop. -/
theorem ran_joinAll {targets : List Query} (ht : ∀ t ∈ targets, P t) (kind : JoinKind)
    (operator : JoinOperator) (fields : List JoinField) :
    Steps P q (ran (joinAll kind operator fields targets) q) := by
  induction targets generalizing q with
  | nil => exact .refl
  | cons t ts ih =>
    have hnone : ∀ f ∈ (none : Option Query), P f := nofun
    have hj : Steps P q _ := ran_join (ht t List.mem_cons_self) hnone kind operator fields
    unfold ran at hj ⊢
    rw [run_joinAll_cons]
    cases hrun : (Query.join kind operator fields t none).run q with
    | error e q' =>
      rw [hrun] at hj
      exact hj
    | ok _ q' =>
      rw [hrun] at hj
      exact hj.trans (ih fun t h => ht t (List.mem_cons_of_mem _ h))

theorem ran_setRecurve (key relationKey : String) (direction : Direction) :
    Steps P q (ran (setRecurve key relationKey direction) q) := by
  have hrun := run_setRecurve key relationKey direction q
  split at hrun
  · rw [ran_of_error hrun]
  · rename_i recurve hr
    rw [ran_of_ok hrun]
    exact .single (.recurve hr)

end Steps

end Query

/-- Every operation but the merge of global conditions takes some steps. -/
theorem Operation.steps {P : Query → Prop} {q : Query} {op : Operation} (hg : op.isGlobal = false)
    (hb : ∀ t, Query.Built t → P t) (ha : ∀ a ∈ op.queries q, P a) :
    Query.Steps P q (op.outcome q).2 := by
  rw [Query.outcome_eq_ran]
  cases op with
  | literal connector field operator v converter =>
    exact .addLiteral q connector field operator v converter
  | group connector groupConnector operator v converter fields =>
    exact .addGroup hb connector groupConnector operator v converter fields
  | criterion connector field operator operand converter =>
    exact .ran_addCriterion connector field operator operand converter
  | subquery connector field operator query converter =>
    exact .ran_addSubqueryOn (ha query (List.mem_singleton_self query)) connector field operator
      converter
  | item connector x => exact .ran_addItem ha connector
  | tree connector t =>
    show Query.Steps P q (q.addTree connector t)
    rw [Query.addTree_eq]
    exact .single (.tree (ha t (List.mem_singleton_self t)) connector)
  | lambda connector l => exact .ran_addLambda hb connector l
  | identity e record => exact .ran_addIdentity e record
  | global m scene source => cases hg
  | join kind operator fields target filter =>
    refine .ran_join (ha target List.mem_cons_self) (fun f hf => ?_) kind operator fields
    exact ha f (List.mem_cons_of_mem _ (Option.mem_toList.mpr hf))
  | joinAll kind operator fields targets => exact .ran_joinAll ha kind operator fields
  | combine kind other =>
    show Query.Steps P q (q.combine kind other)
    rw [Query.combine_eq]
    exact .single (.combine (ha other (List.mem_singleton_self other)) kind)
  | recurve key relationKey direction => exact .ran_setRecurve key relationKey direction
  | orderBy field descending converter =>
    show Query.Steps P q (q.orderBy field descending converter)
    unfold Query.orderBy
    split
    · exact .refl
    · rename_i hf
      exact .single (.adjust (.sort (Bool.eq_false_iff.mpr hf) descending converter) rfl)
  | clearSort => exact .single (.adjust (.clearSort _) rfl)
  | queryFields fields => exact .single (.adjust (.queryFields _ fields) rfl)
  | notQueryFields fields => exact .single (.adjust (.notQueryFields _ fields) rfl)
  | clearQueryFields => exact .single (.adjust (.clearQueryFields _) rfl)
  | paging page pageSize => exact .single (.adjust (.paging _ page pageSize) rfl)
  | clearPaging => exact .single (.adjust (.clearPaging _) rfl)
  | text text parameters => exact .single (.adjust (.text _ ⟨text, parameters⟩) rfl)
  | copies copies => exact .single (.adjust (.copies _ copies) rfl)
  | obsolete obsolete => exact .single (.adjust (.obsolete _ obsolete) rfl)
  | entity e => exact .single (.adjust (.entity _ e) rfl)
  | token t => exact .single (.adjust (.token _ t) rfl)

end RecordQuery
