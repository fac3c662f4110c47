import Mathlib.Logic.Relation
import RecordQuery.Proofs.Query.Reachable

/-!
# The flags of a query

A query knows without looking through it whether there is a subquery, a join or a recursive walk in it.
`Query.Built.flags` says that each step keeps these flags in line with the entries and joins, and
`Reachable.flags_exact` what that means: a flag is set exactly where there is something to set it. So a
query that is filtered in memory has nothing at any depth of its entries that needs a database.
-/

namespace RecordQuery

namespace Query

/-- Whether a flag is set on an item of the entries. -/
def inEntries (q : Query) (flag : Summary → Bool) : Bool :=
  q.entries.any fun e => flag e.item.summary

/-- Whether a flag is set on a query of the joins. -/
def inJoins (q : Query) (flag : Summary → Bool) : Bool :=
  q.joins.any fun j => j.queries.any fun t => flag t.summary

/-- The flags follow from the flags of the items and of the joined queries. -/
structure Flags (q : Query) : Prop where
  subquery : q.summary.hasSubquery = (q.inEntries (·.hasSubquery) || q.inJoins (·.hasSubquery))
  join : q.summary.hasJoin = (!q.joins.isEmpty || q.inEntries (·.hasJoin))
  recurve : q.summary.hasRecurve =
    (q.settings.recurve.isSome || q.inEntries (·.hasRecurve) || q.inJoins (·.hasRecurve))

/-! ## Each step keeps the flags -/

section Steps

variable {q : Query} (flag : Summary → Bool)

theorem inEntries_push (connector : Connector) (item : Item Query) :
    (q.push connector item).inEntries flag = (q.inEntries flag || flag item.summary) := by
  simp only [inEntries, push, List.any_append, List.any_cons, List.any_nil, Bool.or_false]

theorem inJoins_withJoin (kind : JoinKind) (operator : JoinOperator) (fields : List JoinField)
    (target : Query) (filter : Option Query) :
    (q.withJoin kind operator fields target filter).inJoins flag =
      (q.inJoins flag || (target :: filter.toList).any fun t => flag t.summary) := by
  simp only [inJoins, withJoin, Array.any_push, Join.queries]

/-- An appended item brings its own flags. -/
theorem Flags.push (h : Flags q) (connector : Connector) (item : Item Query) :
    Flags (q.push connector item) where
  subquery := by
    show (q.summary.hasSubquery || item.summary.hasSubquery) =
      ((q.push connector item).inEntries _ || q.inJoins _)
    rw [inEntries_push, h.subquery, Bool.or_right_comm]
  join := by
    show (q.summary.hasJoin || item.summary.hasJoin) =
      (!q.joins.isEmpty || (q.push connector item).inEntries _)
    rw [inEntries_push, h.join, Bool.or_assoc]
  recurve := by
    show (q.summary.hasRecurve || item.summary.hasRecurve) =
      (q.settings.recurve.isSome || (q.push connector item).inEntries _ || q.inJoins _)
    rw [inEntries_push, h.recurve, Bool.or_right_comm, Bool.or_assoc (q.settings.recurve.isSome)]

/-- A join brings the flags of its queries. -/
theorem Flags.withJoin (h : Flags q) (kind : JoinKind) (operator : JoinOperator)
    (fields : List JoinField) (target : Query) (filter : Option Query) :
    Flags (q.withJoin kind operator fields target filter) where
  subquery := by
    rw [inJoins_withJoin, ← Bool.or_assoc]
    exact congrArg (· || _) h.subquery
  join := by
    simp [Query.withJoin]
  recurve := by
    rw [inJoins_withJoin, ← Bool.or_assoc]
    exact congrArg (· || _) h.recurve

/-- The flags of a built query follow from those of its items and joined queries. -/
theorem Built.flags (h : Built q) : Flags q := by
  induction h with
  | empty => constructor <;> simp [inEntries, inJoins, Query.empty]
  | condition _ connector c ih => exact ih.push connector (.condition c.settled)
  | @tree _ t _ _ connector ih => exact ih.push connector (.tree t)
  | subquery _ _ _ connector ih => exact ih.push connector _
  | join _ _ _ _ _ kind operator fields ih => exact ih.withJoin kind operator fields _ _
  | combine _ _ _ ih => exact ⟨ih.subquery, ih.join, ih.recurve⟩
  | recurve _ _ ih => exact ⟨ih.subquery, ih.join, rfl⟩
  | adjust _ hs ih =>
    refine ⟨ih.subquery, ih.join, ih.recurve.trans ?_⟩
    rw [← hs.recurve_eq]
    rfl

end Steps

/-! ## What the flags say -/

/-- Whether a query is nested in the entries of another. -/
def Nests (q t : Query) : Prop :=
  ∃ connector, ⟨connector, .tree t⟩ ∈ q.entries

/-- Whether a query is compared with in the entries of another. -/
def Subquery (q : Query) (c : SubqueryCondition Query) : Prop :=
  ∃ connector, ⟨connector, .subquery c⟩ ∈ q.entries

/-- Whether a query is the target or the filter of a join of another. -/
def Joins (q t : Query) : Prop :=
  ∃ j ∈ q.joins, t ∈ j.queries

/-- A flag is set exactly where there is something to set it. -/
structure FlagsExact (q : Query) : Prop where
  subquery : q.summary.hasSubquery = true ↔
    (∃ c, q.Subquery c) ∨ (∃ t, q.Nests t ∧ t.summary.hasSubquery = true) ∨
      ∃ t, q.Joins t ∧ t.summary.hasSubquery = true
  join : q.summary.hasJoin = true ↔
    q.joins ≠ #[] ∨ (∃ t, q.Nests t ∧ t.summary.hasJoin = true) ∨
      ∃ c, q.Subquery c ∧ c.query.summary.hasJoin = true
  recurve : q.summary.hasRecurve = true ↔
    q.settings.recurve ≠ none ∨ (∃ t, q.Nests t ∧ t.summary.hasRecurve = true) ∨
      (∃ c, q.Subquery c ∧ c.query.summary.hasRecurve = true) ∨
      ∃ t, q.Joins t ∧ t.summary.hasRecurve = true

variable {q : Query}

/-- A flag that conditions do not set is set by a nested query or a subquery. -/
theorem inEntries_iff {flag : Summary → Bool} (hc : ∀ c : Condition, flag c.summary = false) :
    q.inEntries flag = true ↔
      (∃ t, q.Nests t ∧ flag t.summary = true) ∨ ∃ c, q.Subquery c ∧ flag c.summary = true := by
  rw [inEntries, List.any_eq_true]
  constructor
  · rintro ⟨⟨connector, item⟩, he, hf⟩
    cases item with
    | condition c => exact absurd hf (Bool.eq_false_iff.mp (hc c))
    | subquery c => exact .inr ⟨c, ⟨connector, he⟩, hf⟩
    | tree t => exact .inl ⟨t, ⟨connector, he⟩, hf⟩
  · rintro (⟨t, ⟨connector, he⟩, hf⟩ | ⟨c, ⟨connector, he⟩, hf⟩)
    · exact ⟨_, he, hf⟩
    · exact ⟨_, he, hf⟩

theorem inJoins_iff {flag : Summary → Bool} :
    q.inJoins flag = true ↔ ∃ t, q.Joins t ∧ flag t.summary = true := by
  simp only [inJoins, Joins, Array.any_eq_true', List.any_eq_true]
  constructor
  · rintro ⟨j, hj, t, ht, hf⟩
    exact ⟨t, ⟨j, hj, ht⟩, hf⟩
  · rintro ⟨t, ⟨j, hj, ht⟩, hf⟩
    exact ⟨j, hj, t, ht, hf⟩

theorem Flags.exact (h : Flags q) : FlagsExact q where
  subquery := by
    rw [h.subquery, Bool.or_eq_true, inEntries_iff fun _ => rfl, inJoins_iff]
    simp only [SubqueryCondition.summary, and_true]
    rw [or_comm (a := ∃ t, _), or_assoc]
  join := by
    rw [h.join, Bool.or_eq_true, inEntries_iff fun _ => rfl, Bool.not_eq_true', ← Bool.not_eq_true,
      Array.isEmpty_iff]
    rfl
  recurve := by
    rw [h.recurve, Bool.or_eq_true, Bool.or_eq_true, inEntries_iff fun _ => rfl, inJoins_iff,
      Option.isSome_iff_ne_none, or_assoc, or_assoc]
    rfl

/-- Nothing in a query that needs no database needs one. -/
theorem FlagsExact.of_not_complex (h : FlagsExact q) (hq : q.isComplex = false) :
    (∀ c, ¬ q.Subquery c) ∧ q.joins = #[] ∧ q.settings.recurve = none ∧
      ∀ t, q.Nests t → t.isComplex = false := by
  simp only [isComplex, Bool.or_eq_false_iff] at hq
  obtain ⟨⟨hs, hj⟩, hr⟩ := hq
  rw [Bool.eq_false_iff, ne_eq, h.subquery] at hs
  rw [Bool.eq_false_iff, ne_eq, h.join] at hj
  rw [Bool.eq_false_iff, ne_eq, h.recurve] at hr
  refine ⟨fun c hc => hs (.inl ⟨c, hc⟩), ?_, ?_, fun t ht => ?_⟩
  · exact Classical.not_not.mp fun hne => hj (.inl hne)
  · exact Classical.not_not.mp fun hne => hr (.inl hne)
  · rw [isComplex, Bool.or_eq_false_iff, Bool.or_eq_false_iff]
    refine ⟨⟨?_, ?_⟩, ?_⟩ <;> rw [Bool.eq_false_iff]
    · exact fun hf => hs (.inr (.inl ⟨t, ht, hf⟩))
    · exact fun hf => hj (.inr (.inl ⟨t, ht, hf⟩))
    · exact fun hf => hr (.inr (.inl ⟨t, ht, hf⟩))

/-- A nested query is a part of the query around it. -/
theorem Nests.mem_parts {t : Query} (h : q.Nests t) : t ∈ q.parts := by
  obtain ⟨connector, he⟩ := h
  refine List.mem_append_left _ (List.mem_append_left _ ?_)
  exact List.mem_flatMap.mpr ⟨_, he, List.mem_singleton_self t⟩

end Query

/-- The flags of every query that can be had are exact. If none is set, no nested query at any depth has
a subquery, a join or a recursive walk. -/
theorem Reachable.flags_exact {q : Query} (h : Reachable q) :
    q.FlagsExact ∧
    (q.isComplex = false → ∀ t, Relation.ReflTransGen Query.Nests q t →
      (∀ c, ¬ t.Subquery c) ∧ t.joins = #[] ∧ t.settings.recurve = none) := by
  refine ⟨h.built.flags.exact, fun hq t ht => ?_⟩
  -- what is nested in a query that needs no database is such a query again
  have ht' : t.Built ∧ t.isComplex = false := by
    induction ht with
    | refl => exact ⟨h.built, hq⟩
    | tail _ hn ih =>
      obtain ⟨hb, hc⟩ := ih
      obtain ⟨-, -, -, hnested⟩ := hb.flags.exact.of_not_complex hc
      exact ⟨hb.part hn.mem_parts, hnested _ hn⟩
  obtain ⟨hs, hj, hr, -⟩ := ht'.1.flags.exact.of_not_complex ht'.2
  exact ⟨hs, hj, hr⟩

/-- Paid orders: a query with a subquery. -/
def paidOrders : Query :=
  ((Operation.subquery .and "Id" .isIn (.forEntity { name := "Payment" }) none).outcome
    (.forEntity { name := "Order" })).2

/-- Users joined with their paid orders, without conditions. -/
def payingUsers : Query :=
  ((Operation.join .inner .equal [⟨"Id", "UserId"⟩] (.forEntity { name := "Order" })
    (some paidOrders)).outcome (.forEntity { name := "User" })).2.lightClone

theorem flags_exact_payingUsers :
    payingUsers.FlagsExact ∧ payingUsers.summary.hasSubquery = true ∧
      (payingUsers.isComplex = false → ∀ t, Relation.ReflTransGen Query.Nests payingUsers t →
        (∀ c, ¬ t.Subquery c) ∧ t.joins = #[] ∧ t.settings.recurve = none) := by
  have hp : Reachable paidOrders :=
    .perform (.forEntity _) fun a ha => List.mem_singleton.mp ha ▸ .forEntity _
  have hu : Reachable payingUsers := by
    refine .lightClone (.perform (.forEntity _) fun a ha => ?_)
    obtain rfl | rfl : a = .forEntity { name := "Order" } ∨ a = paidOrders := by
      simpa [Operation.queries] using ha
    · exact .forEntity _
    · exact hp
  exact ⟨hu.flags_exact.1, by decide +kernel, hu.flags_exact.2⟩

end RecordQuery
