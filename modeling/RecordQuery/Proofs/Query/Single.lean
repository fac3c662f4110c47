import RecordQuery.Proofs.Query.Build
import RecordQuery.Proofs.Query.Filter

/-!
# Queries with one condition

`Query.single` compares one field with one value. It keeps a record as `keepsOn` says
(`keeps_single`): to write equality with null as a test for null changes nothing, also where the field is
required. So negating the comparison turns the query into its complement (`keeps_single_negate`). The
orderings are complements only where the two values have an order.
-/

namespace RecordQuery

/-! ## Comparisons and their negation -/

namespace Comparison

/-- A test for null that is skipped has the opposite answer for the negated comparison. -/
theorem onRequired?_negate (op : Comparison) (expected : Value) :
    op.negate.onRequired? expected = (op.onRequired? expected).map (!·) := by
  cases op <;> simp only [negate, onRequired?] <;> first | rfl | (cases expected.isNull <;> rfl)

theorem onRequired?_of_isOrdering {op : Comparison} (h : op.isOrdering = true) (expected : Value) :
    op.onRequired? expected = none := by
  cases op <;> first | rfl | cases h

theorem isOrdering_negate (op : Comparison) : op.negate.isOrdering = op.isOrdering := by
  cases op <;> rfl

/-- Of an ordering and its negation, one is met if the values have an order, and none otherwise. -/
theorem meets_ordering {op : Comparison} (h : op.isOrdering = true) (actual expected : Value) :
    (op.meets actual expected && op.negate.meets actual expected) = false ∧
      (op.meets actual expected || op.negate.meets actual expected) =
        (actual.compare expected).isSome := by
  cases op <;> first | (cases h; done) | skip
  all_goals
    simp only [meets, negate, isNegative, meetsPositive, Bool.false_eq_true, ↓reduceIte]
    rcases actual.compare expected with - | (_ | _ | _) <;> exact ⟨rfl, rfl⟩

end Comparison

section KeepsOn

variable {entity : Option EntityType} {record : Record} {field : String} {op : Comparison}

/-- Except for the orderings, a record meets either a comparison of a field or its negation. -/
theorem keepsOn_negate (h : op.isOrdering = false) (expected : Value) :
    keepsOn entity record field op.negate expected = !keepsOn entity record field op expected := by
  simp only [keepsOn, op.onRequired?_negate expected, op.meets_negate h]
  cases nullableIn entity field with
  | true => rfl
  | false => cases op.onRequired? expected <;> rfl

/-- An ordering looks at the record, whether or not the field can be null. -/
theorem keepsOn_of_isOrdering (h : op.isOrdering = true) (expected : Value) :
    keepsOn entity record field op expected = op.meets (record.value field) expected := by
  simp only [keepsOn, op.onRequired?_of_isOrdering h expected, ite_self]

end KeepsOn

/-! ## One condition -/

namespace Query

/-- The query without conditions, bound to an entity type or to none. -/
def start : Option EntityType → Query
  | some e => forEntity e
  | none => empty

/-- The query that compares one field with a value. -/
def single (entity : Option EntityType) (field : String) (op : Comparison) (v : Value)
    (converter : Option Converter := none) : Query :=
  (start entity).addLiteral .and field op v converter

/-- A literal comparison appended to a query. -/
def literal (field : String) (op : Comparison) (v : Value) (converter : Option Converter) : Item Query :=
  .condition (Condition.settled { field, operator := op, operand := .literal v, converter })

theorem meetsItem_literal (entity : Option EntityType) (record : Record) (field : String)
    (op : Comparison) (v : Value) (converter : Option Converter) :
    meetsItem entity record (literal field op v converter) = keepsOn entity record field op v := by
  rw [literal, meetsItem]
  exact Condition.keeps_settled_eq ..

/-- A query with one condition keeps the records that meet its comparison. -/
theorem keeps_single {field : String} (hf : Text.allBlank field = false)
    (entity : Option EntityType) (op : Comparison) (v : Value) (converter : Option Converter)
    (record : Record) :
    (single entity field op v converter).keeps record = keepsOn entity record field op v := by
  rw [single, addLiteral_eq, hf, if_neg Bool.false_ne_true, ← meetsItem_literal]
  cases entity <;> exact keeps_push_first rfl rfl rfl .and

/-- Negating the comparison of a query with one condition turns the query into its complement. With an
ordering, the two queries never keep the same record, and they leave out the records whose value has no
order with the one to compare with. -/
theorem keeps_single_negate {field : String} (hf : Text.allBlank field = false)
    (entity : Option EntityType) (op : Comparison) (v : Value) (record : Record) :
    (op.isOrdering = false →
      ((single entity field op v).keeps record = true ↔
        ¬ (single entity field op.negate v).keeps record = true)) ∧
    (op.isOrdering = true →
      ¬ ((single entity field op v).keeps record = true ∧
        (single entity field op.negate v).keeps record = true) ∧
      ((single entity field op v).keeps record = true ∨
        (single entity field op.negate v).keeps record = true ↔
        ((record.value field).compare v).isSome = true)) := by
  simp only [keeps_single hf]
  constructor
  · intro hop
    rw [keepsOn_negate hop, Bool.not_eq_true', Bool.not_eq_false]
  · intro hop
    have hnegate : op.negate.isOrdering = true := op.isOrdering_negate.trans hop
    obtain ⟨hboth, heither⟩ := op.meets_ordering hop (record.value field) v
    rw [keepsOn_of_isOrdering hop, keepsOn_of_isOrdering hnegate]
    constructor
    · rw [← Bool.and_eq_true, hboth]
      exact Bool.false_ne_true
    · rw [← Bool.or_eq_true, heither]

/-- A kind of records whose age is never null. -/
def aged : EntityType :=
  { name := "User", fields := [{ name := "Age", nullable := false }] }

/-- A record that has no age although it must, compared with null and with a number. -/
theorem keeps_single_negate_ageless :
    Text.allBlank "Age" = false ∧
    Comparison.equal.isOrdering = false ∧ Comparison.lessThan.isOrdering = true ∧
    ((single (some aged) "Age" .equal .null).keeps (fun _ => none) = true ↔
      ¬ (single (some aged) "Age" .notEqual .null).keeps (fun _ => none) = true) ∧
    ¬ ((single (some aged) "Age" .lessThan (.int 18)).keeps (fun _ => none) = true ∧
      (single (some aged) "Age" .greaterThanOrEqual (.int 18)).keeps (fun _ => none) = true) ∧
    ((single (some aged) "Age" .lessThan (.int 18)).keeps (fun _ => none) = true ∨
      (single (some aged) "Age" .greaterThanOrEqual (.int 18)).keeps (fun _ => none) = true ↔
      (Value.null.compare (.int 18)).isSome = true) := by
  have hf : Text.allBlank "Age" = false := by decide
  obtain ⟨hequal, -⟩ := keeps_single_negate hf (some aged) .equal .null (fun _ => none)
  obtain ⟨-, hless⟩ := keeps_single_negate hf (some aged) .lessThan (.int 18) (fun _ => none)
  exact ⟨hf, rfl, rfl, hequal rfl, hless rfl⟩

end Query

end RecordQuery
