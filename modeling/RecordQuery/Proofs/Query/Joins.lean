import RecordQuery.Proofs.Query.Build

/-!
# Joining several queries

Several queries are joined one after the other, up to the first that is not bound or finds no room
(`Joinable`). What the joins before it have changed stays: `joinAll_keeps_joined` says which joins a query
has after the whole list or after the part of it that could be joined (`JoinedWith`). So a list that
cannot be joined leaves the query as it was only if its first query cannot be joined.
-/

namespace RecordQuery.Query

/-- Whether queries can be joined one after the other: each is bound, and there is room for it. -/
def Joinable (q : Query) (targets : List Query) : Prop :=
  ∀ i target, targets[i]? = some target →
    target.entity ≠ none ∧ q.settings.lastJoin + i ≠ maxJoins

section

variable (kind : JoinKind) (operator : JoinOperator) (fields : List JoinField)

/-- The joins with some queries, in their order, with the ordinals that follow `last`. -/
def joinsWith (last : Nat) (targets : List Query) : List (Join Query) :=
  targets.mapIdx fun i target =>
    { ordinal := last + (i + 1), kind, operator, fields, target, filter := none }

/-- What a query becomes when some queries are joined: their joins are appended, and count in the
summary. Nothing else changes. -/
structure JoinedWith (q : Query) (targets : List Query) (q' : Query) : Prop where
  joins : q'.joins.toList =
    q.joins.toList ++ joinsWith kind operator fields q.settings.lastJoin targets
  settings : q'.settings =
    { q.settings with lastJoin := q.settings.lastJoin + targets.length }
  summary : q'.summary =
    { q.summary with
      hasJoin := q.summary.hasJoin || !targets.isEmpty
      hasSubquery := q.summary.hasSubquery || targets.any (·.summary.hasSubquery)
      hasRecurve := q.summary.hasRecurve || targets.any (·.summary.hasRecurve) }
  entries : q'.entries = q.entries
  combines : q'.combines = q.combines

end

variable {kind : JoinKind} {operator : JoinOperator} {fields : List JoinField}
  {q q' target : Query} {targets : List Query}

/-! ## One query more -/

theorem joinable_nil (q : Query) : q.Joinable [] :=
  fun _ _ h => nomatch h

theorem Joinable.cons (hb : target.entity ≠ none) (hr : q.settings.lastJoin ≠ maxJoins)
    (h : (q.withJoin kind operator fields target none).Joinable targets) :
    q.Joinable (target :: targets) := by
  intro i t ht
  cases i with
  | zero =>
    cases ht
    exact ⟨hb, hr⟩
  | succ i =>
    obtain ⟨hbound, hroom⟩ := h i t ht
    refine ⟨hbound, ?_⟩
    rwa [Nat.add_comm i 1, ← Nat.add_assoc]

theorem joinsWith_cons (last : Nat) (target : Query) (targets : List Query) :
    joinsWith kind operator fields last (target :: targets) =
      { ordinal := last + 1, kind, operator, fields, target, filter := none } ::
        joinsWith kind operator fields (last + 1) targets := by
  have hordinal (i : Nat) : last + (i + 1 + 1) = last + 1 + (i + 1) := by omega
  simp only [joinsWith, List.mapIdx_cons, Nat.zero_add, hordinal]

namespace JoinedWith

theorem nil (q : Query) : JoinedWith kind operator fields q [] q where
  joins := (List.append_nil _).symm
  settings := rfl
  summary := by simp
  entries := rfl
  combines := rfl

theorem cons
    (h : JoinedWith kind operator fields (q.withJoin kind operator fields target none) targets q') :
    JoinedWith kind operator fields q (target :: targets) q' where
  joins := by
    rw [h.joins, joinsWith_cons]
    simp [withJoin]
  settings := by
    rw [h.settings]
    have hlast : q.settings.lastJoin + 1 + targets.length =
        q.settings.lastJoin + (targets.length + 1) := by omega
    simp only [withJoin, List.length_cons, hlast]
  summary := by
    rw [h.summary]
    simp [withJoin, Join.queries, Bool.or_assoc]
  entries := h.entries
  combines := h.combines

/-- The query stays as it was only where nothing is joined. -/
theorem eq_iff (h : JoinedWith kind operator fields q targets q') : q' = q ↔ targets = [] := by
  constructor
  · rintro rfl
    have hnone : joinsWith kind operator fields q'.settings.lastJoin targets = [] :=
      List.self_eq_append_right.mp h.joins
    exact List.mapIdx_eq_nil_iff.mp hnone
  · rintro rfl
    have hjoins : q'.joins = q.joins := Array.toList_inj.mp (h.joins.trans (List.append_nil _))
    have hsummary : q'.summary = q.summary := by simpa using h.summary
    cases q'
    cases q
    exact Query.mk.injEq .. ▸ ⟨h.entries, hjoins, h.combines, hsummary, h.settings⟩

end JoinedWith

/-! ## The whole list -/

/-- If several queries can be joined, all of them are. If not, the first that cannot be joined decides
the error, those before it are joined nevertheless, and so the query stays as it was only if there are
none before it. -/
theorem joinAll_keeps_joined (kind : JoinKind) (operator : JoinOperator) (fields : List JoinField)
    (targets : List Query) (q : Query) :
    match (joinAll kind operator fields targets).run q with
    | .ok _ q' => q.Joinable targets ∧ JoinedWith kind operator fields q targets q'
    | .error e q' => ∃ joined target rest, targets = joined ++ target :: rest ∧
        q.Joinable joined ∧ JoinedWith kind operator fields q joined q' ∧ (q' = q ↔ joined = []) ∧
        (target.entity = none ∧ e = .missingEntity .joinTarget ∨
          target.entity ≠ none ∧ q'.settings.lastJoin = maxJoins ∧ e = .tooManyJoins) := by
  induction targets generalizing q with
  | nil => exact ⟨joinable_nil q, .nil q⟩
  | cons target targets ih =>
    rw [run_joinAll_cons, run_join]
    -- the first query is not bound, or finds no room, or is joined and the rest goes on from there
    by_cases hb : target.entity = none
    · rw [if_pos hb]
      exact ⟨[], target, targets, rfl, joinable_nil q, .nil q, by simp, .inl ⟨hb, rfl⟩⟩
    rw [if_neg hb]
    by_cases hr : q.settings.lastJoin = maxJoins
    · rw [if_pos hr]
      exact ⟨[], target, targets, rfl, joinable_nil q, .nil q, by simp, .inr ⟨hb, hr, rfl⟩⟩
    rw [if_neg hr]
    have hrest := ih (q.withJoin kind operator fields target none)
    dsimp only
    cases hrun : (joinAll kind operator fields targets).run
        (q.withJoin kind operator fields target none) with
    | ok _ q' =>
      rw [hrun] at hrest
      obtain ⟨hjoinable, hjoined⟩ := hrest
      exact ⟨hjoinable.cons hb hr, hjoined.cons⟩
    | error e q' =>
      rw [hrun] at hrest
      obtain ⟨joined, stopped, rest, rfl, hjoinable, hjoined, -, hwhy⟩ := hrest
      have hall := hjoined.cons
      exact ⟨target :: joined, stopped, rest, rfl, hjoinable.cons hb hr, hall, hall.eq_iff, hwhy⟩

/-- Users. -/
def plainUsers : Query :=
  forEntity { name := "User" }

/-- The users are joined with their roles although the second query cannot be joined. -/
theorem joinAll_keeps_roles :
    ∃ q', (joinAll .inner .equal [⟨"Id", "UserId"⟩] [forEntity { name := "Role" }, empty]).run
        plainUsers = .error (.missingEntity .joinTarget) q' ∧
      q'.joins.size = 1 ∧ plainUsers.joins.size = 0 ∧ q' ≠ plainUsers := by
  refine ⟨_, rfl, rfl, rfl, fun h => ?_⟩
  have hsize : 1 = 0 := congrArg (·.joins.size) h
  cases hsize

end RecordQuery.Query
