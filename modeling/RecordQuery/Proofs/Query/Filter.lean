import RecordQuery.Proofs.Value.Order
import RecordQuery.Query.Build
import RecordQuery.Query.Filter

/-!
# What a filter keeps after an entry is appended

`Query.meets_push` reads the entries of a query from the right: an appended item is connected with all
that was there before, and counts alone where there was nothing. `Condition.keeps_settled` says what a
condition means once it is attached. Writing equality with null as a test for null does not change it,
and neither does skipping the test on a field that cannot be null, if no null is there.
-/

namespace RecordQuery

/-! ## Comparisons -/

namespace Comparison

/-- Whether the comparison is about order. -/
def isOrdering : Comparison → Bool
  | lessThan | lessThanOrEqual | greaterThan | greaterThanOrEqual => true
  | _ => false

/-- Except for the orderings, exactly one of a comparison and its complement is met. -/
theorem meets_negate {op : Comparison} (h : op.isOrdering = false) (actual expected : Value) :
    op.negate.meets actual expected = !op.meets actual expected := by
  cases op <;> simp only [isOrdering, reduceCtorEq] at h <;> simp [meets, negate, isNegative]

/-- Whether the comparison says how two values stand to each other, by equality or by order. -/
def isRelational : Comparison → Bool
  | equal | notEqual => true
  | op => op.isOrdering

/-- Such a comparison keeps its meaning when the values change places. -/
theorem meets_swap {op : Comparison} (h : op.isRelational = true) (a b : Value) :
    op.swap.meets b a = op.meets a b := by
  cases op <;> simp only [isRelational, isOrdering, Bool.false_eq_true] at h
  case equal => exact Value.beq_comm b a
  case notEqual => exact congrArg (!·) (Value.beq_comm b a)
  all_goals
    simp only [swap, meets, isNegative, Bool.false_eq_true, ↓reduceIte, meetsPositive,
      Value.compare_beq_lt a b, Value.compare_beq_gt a b, Value.compare_beq_eq a b]

/-- On a required field that holds no null, skipping a test for null gives what the test gives. -/
theorem meets_of_onRequired {op : Comparison} {actual expected : Value} {answer : Bool}
    (h : op.onRequired? expected = some answer) (ha : actual.isNull = false) :
    op.meets actual expected = answer := by
  cases op <;> simp only [onRequired?, reduceCtorEq, Option.some.injEq] at h
  case isNull => simp [meets, isNegative, meetsPositive, ha, ← h]
  case notNull => simp [meets, isNegative, negate, meetsPositive, ha, ← h]
  all_goals
    split at h <;> simp only [Option.some.injEq, reduceCtorEq] at h
    rename_i hn
    cases expected <;> simp only [Value.isNull, reduceCtorEq] at hn
    simp [meets, isNegative, negate, meetsPositive, Value.beq_null, ha, ← h]

end Comparison

/-- A comparison of a field with a value goes by the value in the record, unless a required field holds
null. -/
theorem keepsOn_eq_meets {entity : Option EntityType} {record : Record} {field : String}
    {op : Comparison} {expected : Value}
    (h : nullableIn entity field = false → (record.value field).isNull = false) :
    keepsOn entity record field op expected = op.meets (record.value field) expected := by
  unfold keepsOn
  cases hn : nullableIn entity field with
  | true => rfl
  | false =>
    simp only [Bool.false_eq_true, ↓reduceIte]
    split
    · rename_i answer ha
      exact (Comparison.meets_of_onRequired ha (h hn)).symm
    · rfl

/-! ## Conditions -/

namespace Condition

theorem read_field (c : Condition) (n : Nat) : (c.read n).1.field = c.field := by
  unfold read; split <;> rfl

theorem read_operand (c : Condition) (n : Nat) : (c.read n).1.operand = c.operand := by
  unfold read; split <;> rfl

theorem read_operator (c : Condition) (n : Nat) : (c.read n).1.operator = c.operator := by
  unfold read; split <;> rfl

theorem read_value (c : Condition) : (c.read 0).1.value = c.value := by
  unfold read
  split
  · rfl
  · rename_i h
    simp [value, valueAfter, h]

theorem read_resolved (c : Condition) : (c.read 0).1.resolved = some c.value := by
  unfold read
  split
  · rename_i v h
    simp [value, valueAfter, h]
  · rename_i h
    simp [value, valueAfter, h]

/-- The operator of a condition once it is attached. -/
def settledOperator (c : Condition) : Comparison :=
  match c.operator, c.value with
  | .equal, .null => .isNull
  | .notEqual, .null => .notNull
  | op, _ => op

/-- Attaching a condition reads its value and fits its operator to it, and nothing else. -/
theorem settled_eq (c : Condition) :
    c.settled = { (c.read 0).1 with operator := c.settledOperator } := by
  simp only [settled, settledOperator, read_operator, read_value]
  split <;> simp_all [← read_operator c 0]

@[simp] theorem settled_field (c : Condition) : c.settled.field = c.field := by
  rw [settled_eq]; exact read_field c 0

@[simp] theorem settled_operand (c : Condition) : c.settled.operand = c.operand := by
  rw [settled_eq]; exact read_operand c 0

@[simp] theorem settled_operator (c : Condition) : c.settled.operator = c.settledOperator := by
  rw [settled_eq]

@[simp] theorem settled_resolved (c : Condition) : c.settled.resolved = some c.value := by
  rw [settled_eq]; exact read_resolved c

@[simp] theorem settled_value (c : Condition) : c.settled.value = c.value := by
  simp [value, valueAfter]

/-- Only a comparison with null changes its operator. -/
theorem settledOperator_of_not_null {c : Condition} (h : c.value.isNull = false) :
    c.settledOperator = c.operator := by
  unfold settledOperator
  split
  · rename_i hv
    rw [hv] at h
    cases h
  · rename_i hv
    rw [hv] at h
    cases h
  · rfl

/-- An attached condition of equality does not compare with null. -/
theorem value_of_settled_equal {c : Condition} (h : c.settled.operator = .equal) :
    c.operator = .equal ∧ c.value.isNull = false := by
  simp only [settled_operator, settledOperator] at h
  split at h
  · cases h
  · cases h
  · rename_i hn _
    refine ⟨h, ?_⟩
    cases hv : c.value <;> first | rfl | exact absurd hv (hn h)

/-- Equality with null and the test for null are met by the same values. -/
theorem meets_settledOperator (c : Condition) (actual : Value) :
    c.settledOperator.meets actual c.value = c.operator.meets actual c.value := by
  unfold settledOperator
  split
  · rename_i ho hv
    simp [ho, hv, Comparison.meets, Comparison.isNegative, Comparison.meetsPositive, Value.beq_null]
  · rename_i ho hv
    simp [ho, hv, Comparison.meets, Comparison.isNegative, Comparison.negate,
      Comparison.meetsPositive, Value.beq_null]
  · rfl

/-- A test for null that may be skipped is skipped however it is written. -/
theorem onRequired?_settledOperator (c : Condition) :
    c.settledOperator.onRequired? c.value = c.operator.onRequired? c.value := by
  unfold settledOperator
  split
  · rename_i ho hv
    rw [ho, hv]
    rfl
  · rename_i ho hv
    rw [ho, hv]
    rfl
  · rfl

/-- An attached condition keeps what the condition says. -/
theorem keeps_settled_eq (c : Condition) (entity : Option EntityType) (record : Record) :
    c.settled.keeps entity record = keepsOn entity record c.field c.operator c.value := by
  rw [keeps, settled_field, settled_operator, settled_value]
  simp only [keepsOn, onRequired?_settledOperator, meets_settledOperator]

/-- What an attached condition means, as long as no required field holds null. -/
theorem keeps_settled {c : Condition} {entity : Option EntityType} {record : Record}
    (h : nullableIn entity c.field = false → (record.value c.field).isNull = false) :
    c.settled.keeps entity record = c.operator.meets (record.value c.field) c.value := by
  rw [keeps_settled_eq, keepsOn_eq_meets h]

/-- A record that meets an attached condition of equality has the value of the condition. -/
theorem beq_of_keeps_equal {c : Condition} {entity : Option EntityType} {record : Record}
    (ho : c.settled.operator = .equal) (h : c.settled.keeps entity record = true) :
    (record.value c.field == c.value) = true := by
  obtain ⟨-, hv⟩ := value_of_settled_equal ho
  rw [keeps, settled_field, settled_value, ho] at h
  simpa [keepsOn, Comparison.onRequired?, hv, Comparison.meets, Comparison.isNegative,
    Comparison.meetsPositive] using h

end Condition

/-! ## Entries -/

/-- Whether conditions need a database. -/
def Summary.isComplex (s : Summary) : Bool :=
  s.hasSubquery || s.hasJoin || s.hasRecurve

theorem Summary.isComplex_add (s : Summary) (connector : Connector) (part : Summary) :
    (s.add connector part).isComplex = (s.isComplex || part.isComplex) := by
  simp only [isComplex, add]
  cases s.hasSubquery <;> cases s.hasJoin <;> cases s.hasRecurve <;> simp

namespace Query

variable {entity : Option EntityType} {record : Record}

theorem meetsMore_append (before : Bool) (xs ys : List (Entry Query)) :
    meetsMore entity record before (xs ++ ys) =
      meetsMore entity record (meetsMore entity record before xs) ys := by
  induction xs generalizing before with
  | nil => rfl
  | cons x xs ih => simp only [List.cons_append, meetsMore, ih]

theorem meets_eq (q : Query) : q.meets entity record = meetsEntries entity record q.entries := by
  cases q; rw [meets]

theorem meets_of_no_entries {q : Query} (h : q.entries = []) : q.meets entity record = true := by
  rw [meets_eq, h, meetsEntries]

/-- An item appended to a query without entries counts alone. -/
theorem meets_push_first {q : Query} (h : q.entries = []) (connector : Connector)
    (item : Item Query) :
    (q.push connector item).meets entity record = meetsItem entity record item := by
  simp only [meets_eq, push, h, List.nil_append, meetsEntries, meetsMore]

/-- An item appended to others is connected with all of them. -/
theorem meets_push {q : Query} (h : q.entries ≠ []) (connector : Connector) (item : Item Query) :
    (q.push connector item).meets entity record =
      connector.join (q.meets entity record) (meetsItem entity record item) := by
  simp only [meets_eq, push]
  cases he : q.entries with
  | nil => exact absurd he h
  | cons x xs => simp only [List.cons_append, meetsEntries, meetsMore_append, meetsMore]

/-- An appended item is connected as its connector counts. A query without entries is met anyway. -/
theorem meets_push_effective (q : Query) (connector : Connector) (item : Item Query) :
    (q.push connector item).meets entity record =
      (q.effective connector).join (q.meets entity record) (meetsItem entity record item) := by
  by_cases h : q.entries = []
  · have he : q.effective connector = .and := if_pos (List.isEmpty_iff.mpr h)
    rw [meets_push_first h, meets_of_no_entries h, he]
    rfl
  · have he : q.effective connector = connector := if_neg (mt List.isEmpty_iff.mp h)
    rw [meets_push h, he]

/-! ## Queries that need no database -/

theorem keeps_eq {q : Query} (h : q.isComplex = false) (record : Record) :
    q.keeps record = q.meets q.entity record := by
  rw [keeps, h, Bool.not_false, Bool.true_and]

/-- An item that needs no database keeps the query such. -/
theorem isComplex_push {q : Query} {item : Item Query} (hq : q.isComplex = false)
    (hi : item.summary.isComplex = false) (connector : Connector) :
    (q.push connector item).isComplex = false := by
  show (q.summary.add (q.effective connector) item.summary).isComplex = false
  rw [Summary.isComplex_add, hi, Bool.or_false]
  exact hq

theorem keeps_push_first {q : Query} {item : Item Query} (h : q.entries = [])
    (hq : q.isComplex = false) (hi : item.summary.isComplex = false) (connector : Connector) :
    (q.push connector item).keeps record = meetsItem q.entity record item := by
  rw [keeps_eq (isComplex_push hq hi connector)]
  exact meets_push_first h connector item

theorem keeps_push {q : Query} {item : Item Query} (h : q.entries ≠ [])
    (hq : q.isComplex = false) (hi : item.summary.isComplex = false) (connector : Connector) :
    (q.push connector item).keeps record =
      connector.join (q.keeps record) (meetsItem q.entity record item) := by
  rw [keeps_eq (isComplex_push hq hi connector), keeps_eq hq]
  exact meets_push h connector item

theorem keeps_of_no_entries {q : Query} (h : q.entries = []) (hq : q.isComplex = false) :
    q.keeps record = true := by
  rw [keeps_eq hq, meets_of_no_entries h]

/-- An item that is appended with `AND` restricts what the query keeps. -/
theorem keeps_push_and {q : Query} {item : Item Query} (hq : q.isComplex = false)
    (hi : item.summary.isComplex = false) :
    (q.push .and item).keeps record = (q.keeps record && meetsItem q.entity record item) := by
  by_cases h : q.entries = []
  · rw [keeps_push_first h hq hi, keeps_of_no_entries h hq, Bool.true_and]
  · exact keeps_push h hq hi .and

/-- An item that is appended with `OR` extends what the query keeps, or takes the place of nothing. -/
theorem keeps_push_or {q : Query} {item : Item Query} (hq : q.isComplex = false)
    (hi : item.summary.isComplex = false) :
    (q.push .or item).keeps record =
      if q.entries = [] then meetsItem q.entity record item
      else (q.keeps record || meetsItem q.entity record item) := by
  by_cases h : q.entries = []
  · rw [keeps_push_first h hq hi, if_pos h]
  · rw [keeps_push h hq hi, if_neg h, Connector.join]

end Query

end RecordQuery
