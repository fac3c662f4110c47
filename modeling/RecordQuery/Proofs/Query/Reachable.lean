import RecordQuery.Proofs.Manager.Merge
import RecordQuery.Proofs.Query.Steps

/-!
# The queries that can be had

`Reachable` lists all ways to get hold of a query: the constructors, the copies, the queries inside
another, and every operation, whether or not it fails. `Reachable.built` says that each of them is
built by the steps of `Query.Built`.
-/

namespace RecordQuery

/-- A query that can be had by the operations on queries and managers. -/
inductive Reachable : Query → Prop
  | empty : Reachable .empty
  | forEntity (e : EntityType) : Reachable (.forEntity e)
  | ofLambda {e : EntityType} {l : Lambda} {q : Query} (h : Query.ofLambda e l = .ok q) : Reachable q
  | create (m : Manager) : Reachable m.create
  | createFor {m : Manager} {model : String} {q : Query} (h : m.createFor model = .ok q) :
      Reachable q
  | createWith {m : Manager} {model : String} {l : Lambda} {q : Query}
      (h : m.createWith model l = .ok q) : Reachable q
  | createFromText {m : Manager} {model text : String} {bindings : Fields Value} {q : Query}
      (h : m.createFromText model text bindings = .ok q) : Reachable q
  | deepClone {q : Query} (h : Reachable q) : Reachable q.deepClone
  | lightClone {q : Query} (h : Reachable q) : Reachable q.lightClone
  | part {q p : Query} (h : Reachable q) (hp : p ∈ q.parts) : Reachable p
  | perform {q : Query} {op : Operation} (h : Reachable q) (ha : ∀ a ∈ op.queries q, Reachable a) :
      Reachable (op.outcome q).2

namespace Query

open Translation

namespace Built

variable {q : Query}

theorem applyGlobal {m : Manager} {scene : UsageScene} {source : Option String} (h : Built q)
    (hc : ∀ t ∈ (Operation.global m scene source).queries q, Built t) :
    Built (m.applyGlobal scene source q) := by
  rcases q.idle_or_awaiting with hidle | ⟨e, he, hg⟩
  · rw [Manager.applyGlobal_of_idle hidle]
    exact h
  · simp only [Operation.queries, hg, he] at hc
    rw [Manager.applyGlobal_of_awaiting he hg, foldl_merge]
    refine Built.adjust (List.foldlRecOn _ _ h fun q' h' c hmem => ?_) (.globalApplied _)
    exact h'.tree (hc _ (List.mem_map_of_mem (List.mem_filter.mp hmem).1)) c.connector

/-- Every operation takes some of the steps that queries are built by. -/
theorem perform {op : Operation} (h : Built q) (ha : ∀ a ∈ op.queries q, Built a) :
    Built (op.outcome q).2 := by
  cases hg : op.isGlobal with
  | false => exact (op.steps hg (fun _ => id) ha).built h
  | true =>
    obtain ⟨m, scene, source, rfl⟩ := op.eq_global_of_isGlobal hg
    exact h.applyGlobal ha

theorem forEntity (e : EntityType) : Built (forEntity e) :=
  Built.empty.adjust (.entity _ e)

theorem create (m : Manager) : Built m.create :=
  Built.empty.adjust (.copies _ m.config.copies)

theorem createFor {m : Manager} {model : String} (h : m.createFor model = .ok q) : Built q := by
  unfold Manager.createFor at h
  cases he : m.entityOf model with
  | error e => rw [he] at h; cases h
  | ok e =>
    rw [he] at h
    cases h
    exact (create m).adjust (.entity _ e)

theorem createWith {m : Manager} {model : String} {l : Lambda}
    (h : m.createWith model l = .ok q) : Built q := by
  unfold Manager.createWith at h
  split at h
  · cases h
  · rename_i q₀ h₀
    split at h
    · rename_i q₁ h₁
      cases h
      rw [← ran_of_ok h₁]
      exact (Steps.ran_addLambda (fun _ => id) .and l).built (createFor h₀)
    · cases h

end Built

end Query

/-- Every query that can be had is built by the steps of `Query.Built`. -/
theorem Reachable.built {q : Query} (h : Reachable q) : q.Built := by
  induction h with
  | empty => exact .empty
  | forEntity e => exact .forEntity e
  | @ofLambda e l q h =>
    unfold Query.ofLambda at h
    split at h
    · rename_i q' hq
      cases h
      rw [← Query.ran_of_ok hq]
      exact (Query.Steps.ran_addLambda (fun _ => id) .and l).built (.forEntity e)
    · cases h
  | create m => exact .create m
  | createFor h => exact .createFor h
  | createWith h => exact .createWith h
  | createFromText h =>
    unfold Manager.createFromText at h
    split at h
    · cases h
    · exact .createWith h
  | deepClone _ ih =>
    rw [Query.deepClone_eq]
    exact ih
  | lightClone _ ih => exact ih.lightClone
  | part _ hp ih => exact ih.part hp
  | perform _ _ ih iha => exact ih.perform iha

end RecordQuery
