import RecordQuery.Proofs.Translation.Meaning

/-!
# Filters on operands without value

An operand may have no value, as a division by zero. The expression around it has none either unless
`&&` or `||` is decided before, but a query reads the operand as null and goes on. So a query keeps what
the lambda with null in such places accepts (`keeps_addLambda_nulled`). It keeps more than the lambda
accepts only where the lambda has no value at all.
-/

namespace RecordQuery

/-- A lambda with null for the operands of its conditions that have no value. -/
def Lambda.nulled (l : Lambda) : Lambda where
  parameter := l.parameter
  body := l.body.nulled

namespace Lambda

variable {l : Lambda} {record : Record}

theorem accepts_of_eval {v : Value} (h : l.body.eval (some record) = some v) :
    l.accepts record = v.isTrue := by
  rw [accepts, Expr.evaluateOn, h]

/-- Null operands make no difference where the lambda has a value. -/
theorem accepts_nulled {v : Value} (h : l.body.evaluateOn record = some v) :
    l.nulled.accepts record = l.accepts record := by
  have hnulled : l.nulled.body.eval (some record) = some v := Expr.eval_nulled l.body h
  rw [accepts_of_eval hnulled, accepts_of_eval h]

end Lambda

namespace Query

open Translation

/-- A query without entity type that is made of a lambda keeps what the lambda accepts with null for
its operands without value. Where the lambda has a value, this is what the lambda itself accepts. -/
theorem keeps_addLambda_nulled {l : Lambda} {entry : Entry Query} {record : Record}
    (hl : l.translate = .ok entry)
    (hs : ∀ f ∈ l.body.searchedFields, (record.value f).isList = false) :
    ∃ q, (addLambda .and l).run Query.empty = .ok () q ∧
      q.keeps record = l.nulled.accepts record ∧
      ((l.body.evaluateOn record).isSome = true → q.keeps record = l.accepts record) ∧
      (q.keeps record = true → l.accepts record = true ∨ l.body.evaluateOn record = none) := by
  obtain ⟨-, ht⟩ := translates_of_translate l.parameter l.body hl
  have hrun : (addLambda .and l).run Query.empty =
      .ok () (Query.empty.push .and entry.item.attached) := by
    rw [run_addLambda, hl]
    exact run_addItem_of_not_subquery ht.not_subquery .and Query.empty
  -- without entity type no field is required
  have hcomparable : Comparable none record l.body := ⟨hs, fun _ _ => nofun⟩
  have hitem : (Query.empty.push .and entry.item.attached).keeps record =
      l.nulled.accepts record := by
    obtain ⟨v, hv, hm⟩ := ht.meetsItem_nulled hcomparable
    rw [Lambda.accepts_of_eval (l := l.nulled) hv, ← hm]
    exact keeps_push_first rfl rfl ht.summary_isComplex .and
  have hvalued : (l.body.evaluateOn record).isSome = true →
      (Query.empty.push .and entry.item.attached).keeps record = l.accepts record := by
    intro h
    obtain ⟨v, hv⟩ := Option.isSome_iff_exists.mp h
    rw [hitem, Lambda.accepts_nulled hv]
  refine ⟨_, hrun, hitem, hvalued, fun hkeeps => ?_⟩
  cases hv : l.body.evaluateOn record with
  | none => exact .inr rfl
  | some v =>
    rw [hv] at hvalued
    exact .inl ((hvalued rfl).symm.trans hkeeps)

/-- `1 / 0`, which has no value. -/
def quotient : Expr :=
  .binary .divide (.constant (.int 1)) (.constant (.int 0))

/-- `x => x.Name.Contains("b") || x.Age == 1 / 0` -/
def bOrQuotient : Lambda where
  parameter := "x"
  body := .binary .orElse (.call (.member (.parameter "x") "Name") "Contains" [.constant (.string "b")])
    (.binary .equal (.member (.parameter "x") "Age") quotient)

/-- A record with a name and no age. -/
def bob : Record :=
  Document.record ⟨[("Name", .string "bob")]⟩

theorem keeps_addLambda_nulled_bob :
    (∃ entry, bOrQuotient.translate = .ok entry) ∧
    (∀ f ∈ bOrQuotient.body.searchedFields, (bob.value f).isList = false) ∧
    quotient ∈ bOrQuotient.body.valueOperands ∧ quotient.evaluate = none ∧
    ∃ q, (addLambda .and bOrQuotient).run Query.empty = .ok () q ∧
      q.keeps bob = bOrQuotient.nulled.accepts bob ∧ q.keeps bob = bOrQuotient.accepts bob := by
  have hs : ∀ f ∈ bOrQuotient.body.searchedFields, (bob.value f).isList = false := by
    intro f hf
    rw [List.mem_singleton.mp hf]
    rfl
  obtain ⟨q, hrun, hkeeps, hvalued, -⟩ := keeps_addLambda_nulled (l := bOrQuotient) rfl hs
  have hoperand : quotient ∈ bOrQuotient.body.valueOperands := .tail _ (.head _)
  exact ⟨⟨_, rfl⟩, hs, hoperand, rfl, q, hrun, hkeeps, hvalued rfl⟩

/-- `x => x.Age == 1 / 0` -/
def ageQuotient : Lambda where
  parameter := "x"
  body := .binary .equal (.member (.parameter "x") "Age") quotient

/-- A query keeps a record without age as if `1 / 0` were null, but the lambda does not accept it. -/
theorem keeps_ageQuotient_not_accepts :
    ageQuotient.body.valueOperands = [quotient] ∧ quotient.evaluate = none ∧
    ageQuotient.body.searchedFields = [] ∧
    (∃ q, (addLambda .and ageQuotient).run Query.empty = .ok () q ∧ q.keeps bob = true) ∧
    ageQuotient.accepts bob = false :=
  ⟨rfl, rfl, rfl, ⟨_, rfl, rfl⟩, rfl⟩

end Query

end RecordQuery
