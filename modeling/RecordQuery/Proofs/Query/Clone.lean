import RecordQuery.Query.Build

/-!
# A copy is the same query

`deepClone_eq` says that a copy has everything that the query has, at every depth. So it makes no
difference to the result whether a query is copied before it is attached (`taken_eq`).
-/

namespace RecordQuery.Query

mutual

theorem deepClone_eq : ∀ q : Query, q.deepClone = q
  | ⟨entries, joins, combines, summary, settings⟩ => by
    rw [deepClone, cloneEntries_eq, cloneJoins_eq, cloneCombines_eq]

theorem cloneEntries_eq : ∀ entries : List (Entry Query), cloneEntries entries = entries
  | [] => by rw [cloneEntries]
  | ⟨_, item⟩ :: rest => by rw [cloneEntries, cloneItem_eq item, cloneEntries_eq rest]

theorem cloneItem_eq : ∀ item : Item Query, cloneItem item = item
  | .condition _ => by rw [cloneItem]
  | .subquery c => by rw [cloneItem, cloneSubquery_eq c]
  | .tree q => by rw [cloneItem, deepClone_eq q]

theorem cloneSubquery_eq : ∀ c : SubqueryCondition Query, cloneSubquery c = c
  | ⟨_, _, query, _⟩ => by rw [cloneSubquery, deepClone_eq query]

theorem cloneJoins_eq : ∀ joins : Array (Join Query), cloneJoins joins = joins
  | ⟨joins⟩ => by rw [cloneJoins, cloneJoinList_eq joins]

theorem cloneJoinList_eq : ∀ joins : List (Join Query), cloneJoinList joins = joins
  | [] => by rw [cloneJoinList]
  | ⟨_, _, _, _, target, filter⟩ :: rest => by
    rw [cloneJoinList, deepClone_eq target, cloneFilter_eq filter, cloneJoinList_eq rest]

theorem cloneFilter_eq : ∀ filter : Option Query, cloneFilter filter = filter
  | none => by rw [cloneFilter]
  | some q => by rw [cloneFilter, deepClone_eq q]

theorem cloneCombines_eq : ∀ combines : List (Combine Query), cloneCombines combines = combines
  | [] => by rw [cloneCombines]
  | ⟨_, query⟩ :: rest => by rw [cloneCombines, deepClone_eq query, cloneCombines_eq rest]

end

/-- A query is attached as it is, copied or not. -/
@[simp] theorem taken_eq (q other : Query) : q.taken other = other := by
  rw [taken, deepClone_eq, ite_self]

end RecordQuery.Query
