import RecordQuery.Query.Basic

/-!
# Copies of a query

`deepClone` rebuilds a query with every query in it: nested queries, subqueries, join targets and
filters, and combinations. `lightClone` keeps what is attached to a query and drops its conditions.
-/

namespace RecordQuery.Query

mutual

/-- A copy of the query and of every query in it. -/
def deepClone : Query → Query
  | ⟨entries, joins, combines, summary, settings⟩ =>
    ⟨cloneEntries entries, cloneJoins joins, cloneCombines combines, summary, settings⟩

/-- A copy of entries. -/
def cloneEntries : List (Entry Query) → List (Entry Query)
  | [] => []
  | ⟨connector, item⟩ :: rest => ⟨connector, cloneItem item⟩ :: cloneEntries rest

/-- A copy of an item. -/
def cloneItem : Item Query → Item Query
  | .condition c => .condition c
  | .subquery c => .subquery (cloneSubquery c)
  | .tree q => .tree q.deepClone

/-- A copy of a subquery condition. -/
def cloneSubquery : SubqueryCondition Query → SubqueryCondition Query
  | ⟨field, operator, query, converter⟩ => ⟨field, operator, query.deepClone, converter⟩

/-- A copy of joins. -/
def cloneJoins : Array (Join Query) → Array (Join Query)
  | ⟨joins⟩ => ⟨cloneJoinList joins⟩

/-- A copy of joins. -/
def cloneJoinList : List (Join Query) → List (Join Query)
  | [] => []
  | ⟨ordinal, kind, operator, fields, target, filter⟩ :: rest =>
    ⟨ordinal, kind, operator, fields, target.deepClone, cloneFilter filter⟩ :: cloneJoinList rest

/-- A copy of the filter of a join. -/
def cloneFilter : Option Query → Option Query
  | none => none
  | some q => some q.deepClone

/-- A copy of combinations. -/
def cloneCombines : List (Combine Query) → List (Combine Query)
  | [] => []
  | ⟨kind, query⟩ :: rest => ⟨kind, query.deepClone⟩ :: cloneCombines rest

end


/-- A copy without conditions. What is known of the conditions starts anew: only the joins and the
recursive walk that are kept still count. -/
def lightClone (q : Query) : Query :=
  let joins := cloneJoins q.joins
  let joined (has : Summary → Bool) : Bool := joins.any fun j => j.queries.any fun t => has t.summary
  { entries := []
    joins := joins
    combines := cloneCombines q.combines
    summary :=
      { hasSubquery := joined (·.hasSubquery)
        hasJoin := !joins.isEmpty
        hasRecurve := q.settings.recurve.isSome || joined (·.hasRecurve) }
    settings := { q.settings with globalApplied := false } }

end RecordQuery.Query
