import Mathlib.Data.List.Nodup
import RecordQuery.Proofs.Query.Filter
import RecordQuery.Proofs.Query.Flags

/-!
# Queries are well formed at every depth

`Query.WellFormed` collects what holds of the conditions, joins and settings of a query because each
operation checks or arranges it. `Query.Built.wellFormed` says that each step keeps it. The queries
inside a query are built by such steps too, so `Reachable.wellFormed_inside` reaches every depth.
-/

namespace RecordQuery

/-! ## Settings -/

/-- What holds of the settings of a query. -/
structure Settings.WellFormed (s : Settings) : Prop where
  recurve : ∀ r ∈ s.recurve,
    Text.allBlank r.key = false ∧ Text.allBlank r.relationKey = false ∧ r.key ≠ r.relationKey
  sorts : ∀ k ∈ s.sorts, Text.allBlank k.field = false
  queryFields : s.queryFields.Nodup
  notQueryFields : s.notQueryFields.Nodup
  paging : ∀ p ∈ s.paging, 1 ≤ p.page

theorem nodup_addNames {names : List String} (h : names.Nodup) (more : List String) :
    (addNames names more).Nodup := by
  refine List.foldlRecOn more _ h fun acc hacc name _ => ?_
  simp only
  split
  · exact hacc
  · rename_i hn
    simp only [Bool.or_eq_true, List.contains_iff_mem, not_or] at hn
    exact List.nodup_append.mpr ⟨hacc, List.nodup_singleton _, fun a ha b hb hab =>
      hn.2 (List.mem_singleton.mp hb ▸ hab ▸ ha)⟩

/-- The keys of a recursive walk are checked when it is made. -/
theorem Recurve.keys_of_make {key relationKey : String} {direction : Direction} {r : Recurve}
    (h : Recurve.make key relationKey direction = .ok r) :
    Text.allBlank r.key = false ∧ Text.allBlank r.relationKey = false ∧ r.key ≠ r.relationKey := by
  unfold Recurve.make at h
  split at h
  · cases h
  · rename_i hblank
    split at h
    · cases h
    · rename_i hne
      cases h
      simp only [Bool.or_eq_true, not_or, Bool.not_eq_true] at hblank
      exact ⟨hblank.1, hblank.2, hne⟩

namespace Adjusts

variable {s t : Settings}

theorem lastJoin_eq (h : Adjusts s t) : t.lastJoin = s.lastJoin := by
  cases h <;> rfl

/-- A query stays bound. -/
theorem entity_ne_none (h : Adjusts s t) (he : s.entity ≠ none) : t.entity ≠ none := by
  cases h with
  | entity => exact Option.some_ne_none _
  | _ => exact he

theorem wellFormed (h : Adjusts s t) (hs : s.WellFormed) : t.WellFormed := by
  obtain ⟨hrecurve, hsorts, hquery, hnot, hpaging⟩ := hs
  cases h with
  | sort hf descending converter =>
    refine ⟨hrecurve, fun k hk => ?_, hquery, hnot, hpaging⟩
    rcases List.mem_append.mp hk with hk | hk
    · exact hsorts k hk
    · rw [List.mem_singleton.mp hk]
      exact hf
  | clearSort => exact ⟨hrecurve, nofun, hquery, hnot, hpaging⟩
  | queryFields fields => exact ⟨hrecurve, hsorts, nodup_addNames hquery fields, hnot, hpaging⟩
  | notQueryFields fields => exact ⟨hrecurve, hsorts, hquery, nodup_addNames hnot fields, hpaging⟩
  | clearQueryFields => exact ⟨hrecurve, hsorts, .nil, .nil, hpaging⟩
  | select _ field => exact ⟨hrecurve, hsorts, List.nodup_singleton field, hnot, hpaging⟩
  | paging page pageSize =>
    refine ⟨hrecurve, hsorts, hquery, hnot, fun p hp => ?_⟩
    cases hp
    exact Nat.le_max_right page 1
  | clearPaging => exact ⟨hrecurve, hsorts, hquery, hnot, nofun⟩
  | text | copies | obsolete | entity | token | globalApplied =>
    exact ⟨hrecurve, hsorts, hquery, hnot, hpaging⟩

end Adjusts

/-! ## Queries -/

/-- A condition whose value has been read, and that compares for equality with nothing null. -/
def Condition.Settled (c : Condition) : Prop :=
  ∃ v, c.resolved = some v ∧ (c.operator = .equal ∨ c.operator = .notEqual → v ≠ .null)

theorem Condition.settled_spec (c : Condition) : c.settled.Settled := by
  refine ⟨c.value, settled_resolved c, ?_⟩
  rw [settled_operator, settledOperator]
  split
  · rintro (ho | ho) <;> cases ho
  · rintro (ho | ho) <;> cases ho
  · rename_i hequal hnotEqual
    rintro (ho | ho) hv
    · exact hequal ho hv
    · exact hnotEqual ho hv

namespace Query

/-- What holds of a query apart from the queries inside it. -/
structure WellFormed (q : Query) : Prop where
  condition : ∀ connector c, ⟨connector, .condition c⟩ ∈ q.entries → c.Settled
  subquery : ∀ c, q.Subquery c → q.entity ≠ none ∧ c.query.settings.queryFields ≠ []
  target : ∀ j ∈ q.joins, j.target.entity ≠ none
  ordinal : ∀ i (hi : i < q.joins.size), (q.joins[i]).ordinal = i + 1
  lastJoin : q.settings.lastJoin = q.joins.size
  size_joins : q.joins.size ≤ 65535
  settings : q.settings.WellFormed

variable {q : Query}

theorem selecting_ne_nil (q : Query) (field : String) :
    (q.selecting field).settings.queryFields ≠ [] := by
  unfold selecting
  split
  · exact List.cons_ne_nil _ _
  · rename_i h
    exact mt List.isEmpty_iff.mpr h

/-- An appended item brings its own condition or subquery. -/
theorem WellFormed.push {item : Item Query} (h : q.WellFormed)
    (hc : ∀ c, item = .condition c → c.Settled)
    (hs : ∀ c, item = .subquery c → q.entity ≠ none ∧ c.query.settings.queryFields ≠ [])
    (connector : Connector) : (q.push connector item).WellFormed where
  condition connector' c hmem := by
    rcases List.mem_append.mp hmem with hmem | hmem
    · exact h.condition connector' c hmem
    · cases List.mem_singleton.mp hmem
      exact hc c rfl
  subquery c := by
    rintro ⟨connector', hmem⟩
    rcases List.mem_append.mp hmem with hmem | hmem
    · exact h.subquery c ⟨connector', hmem⟩
    · cases List.mem_singleton.mp hmem
      exact hs c rfl
  target := h.target
  ordinal := h.ordinal
  lastJoin := h.lastJoin
  size_joins := h.size_joins
  settings := h.settings

/-- A join gets the next ordinal. -/
theorem WellFormed.withJoin {target : Query} {filter : Option Query} (h : q.WellFormed)
    (he : target.entity ≠ none) (hm : q.settings.lastJoin ≠ maxJoins) (kind : JoinKind)
    (operator : JoinOperator) (fields : List JoinField) :
    (q.withJoin kind operator fields target filter).WellFormed where
  condition := h.condition
  subquery := h.subquery
  target j hj := by
    rcases Array.mem_push.mp hj with hj | rfl
    · exact h.target j hj
    · exact he
  ordinal i hi := by
    simp only [Query.withJoin, Array.getElem_push]
    split
    · rename_i hlt
      exact h.ordinal i hlt
    · rename_i hge
      have hsize : i < q.joins.size + 1 := by simpa [Query.withJoin] using hi
      show q.settings.lastJoin + 1 = i + 1
      rw [h.lastJoin]
      omega
  lastJoin := by
    show q.settings.lastJoin + 1 = _
    rw [h.lastJoin]
    simp [Query.withJoin]
  size_joins := by
    have hsize := h.size_joins
    have hlast := h.lastJoin
    simp only [Query.withJoin, Array.size_push]
    simp only [maxJoins] at hm
    omega
  settings := ⟨h.settings.recurve, h.settings.sorts, h.settings.queryFields,
    h.settings.notQueryFields, h.settings.paging⟩

/-- A query with the same entries and joins only needs settings that are well formed. -/
theorem WellFormed.congr {q' : Query} (h : q.WellFormed) (hentries : q'.entries = q.entries)
    (hjoins : q'.joins = q.joins) (hbound : q.entity ≠ none → q'.entity ≠ none)
    (hlast : q'.settings.lastJoin = q.settings.lastJoin) (hs : q'.settings.WellFormed) :
    q'.WellFormed where
  condition := hentries ▸ h.condition
  subquery c := by
    rintro ⟨connector, hmem⟩
    obtain ⟨he, hfields⟩ := h.subquery c ⟨connector, hentries ▸ hmem⟩
    exact ⟨hbound he, hfields⟩
  target := hjoins ▸ h.target
  ordinal := by
    rw [hjoins]
    exact h.ordinal
  lastJoin := by
    rw [hlast, h.lastJoin, hjoins]
  size_joins := hjoins ▸ h.size_joins
  settings := hs

/-- Every step keeps a query well formed. -/
theorem Built.wellFormed (h : Built q) : q.WellFormed := by
  induction h with
  | empty =>
    have hsettings : Settings.WellFormed {} := ⟨nofun, nofun, .nil, .nil, nofun⟩
    exact ⟨fun _ _ h => (List.not_mem_nil h).elim, fun _ ⟨_, h⟩ => (List.not_mem_nil h).elim,
      fun _ h => (Array.not_mem_empty _ h).elim, fun _ h => (Nat.not_lt_zero _ h).elim, rfl,
      Nat.zero_le _, hsettings⟩
  | condition _ connector c ih =>
    exact ih.push (fun d hd => Item.condition.inj hd ▸ c.settled_spec) (fun _ hd => by cases hd)
      connector
  | tree _ _ connector ih =>
    exact ih.push (fun _ hd => by cases hd) (fun _ hd => by cases hd) connector
  | @subquery q c _ _ he connector ih =>
    refine ih.push (fun _ hd => by cases hd) (fun d hd => ?_) connector
    cases hd
    exact ⟨he, selecting_ne_nil c.query c.field⟩
  | join _ _ _ he hm kind operator fields ih => exact ih.withJoin he hm kind operator fields
  | combine _ _ _ ih => exact ih.congr rfl rfl id rfl ih.settings
  | @recurve q key relationKey direction recurve _ hr ih =>
    have hkeys : ∀ r ∈ some recurve, Text.allBlank r.key = false ∧
        Text.allBlank r.relationKey = false ∧ r.key ≠ r.relationKey :=
      fun r hmem => Option.some.inj hmem ▸ Recurve.keys_of_make hr
    exact ih.congr rfl rfl id rfl { ih.settings with recurve := hkeys }
  | adjust _ hs ih =>
    exact ih.congr rfl rfl hs.entity_ne_none hs.lastJoin_eq (hs.wellFormed ih.settings)

/-- The queries inside a query at any depth, itself included. -/
def Inside (q : Query) : Query → Prop :=
  Relation.ReflTransGen (fun q p => p ∈ q.parts) q

end Query

/-- Every query that can be had is well formed, and so is every query inside it. -/
theorem Reachable.wellFormed_inside {q p : Query} (h : Reachable q) (hp : q.Inside p) :
    p.WellFormed := by
  have hb : p.Built := by
    induction hp with
    | refl => exact h.built
    | tail _ hmem ih => exact ih.part hmem
  exact hb.wellFormed

/-- Employees without a manager. -/
def unmanaged : Query :=
  ((Operation.literal .and "Manager" .equal .null none).outcome (.forEntity { name := "Employee" })).2

/-- Departments joined with their employees that have no manager. -/
def headedDepartments : Query :=
  ((Operation.join .inner .equal [⟨"Id", "Department"⟩] (.forEntity { name := "Employee" })
    (some unmanaged)).outcome (.forEntity { name := "Department" })).2

/-- Companies with such a department. -/
def headedCompanies : Query :=
  ((Operation.subquery .and "Department" .isIn headedDepartments none).outcome
    (.forEntity { name := "Company" })).2

theorem wellFormed_unmanaged :
    Reachable headedCompanies ∧ headedCompanies.Inside unmanaged ∧ unmanaged.WellFormed := by
  have hu : Reachable unmanaged := .perform (.forEntity _) nofun
  have hd : Reachable headedDepartments := by
    refine .perform (.forEntity _) fun a ha => ?_
    obtain rfl | rfl : a = .forEntity { name := "Employee" } ∨ a = unmanaged := by
      simpa [Operation.queries] using ha
    · exact .forEntity _
    · exact hu
  have hc : Reachable headedCompanies :=
    .perform (.forEntity _) fun a ha => List.mem_singleton.mp ha ▸ hd
  have hin : headedCompanies.Inside unmanaged :=
    .tail (.single (List.mem_singleton_self (headedDepartments.selecting "Department")))
      (List.mem_cons_of_mem _ (List.mem_singleton_self unmanaged))
  exact ⟨hc, hin, hc.wellFormed_inside hin⟩

end RecordQuery
