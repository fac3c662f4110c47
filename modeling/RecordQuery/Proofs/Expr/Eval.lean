import RecordQuery.Proofs.Expr.Steps

/-!
# What the value of an expression depends on

Without a record an expression has the value that it has on every record, or it has none, and that only
if it uses the parameter (`evaluate_approximates`). The induction on expressions is `remains_eval_none`,
with members of the parameter as the one place at which the value is lost. A field of the parameter,
also behind conversions, has the record's value of that field (`eval_of_asMember`). Operators and
methods go by the values of their operands.
-/

namespace RecordQuery.Expr

/-! ## Operators and methods -/

section Operands

variable {r : Option Record} {left right : Expr} {a b : Value}

/-- A comparison of two values has a truth value. -/
theorem eval_comparison {op : BinaryOp} (hop : op.isComparison = true)
    (hl : left.eval r = some a) (hr : right.eval r = some b) :
    (binary op left right).eval r = some (.bool (op.compares a b)) := by
  cases op <;> simp only [BinaryOp.isComparison, Bool.false_eq_true] at hop <;>
    simp only [eval, hl, hr, BinaryOp.apply?, BinaryOp.isComparison, ↓reduceIte]

theorem eval_andAlso (hl : left.eval r = some a) (hr : right.eval r = some b) :
    (binary .andAlso left right).eval r = some (.bool (a.isTrue && b.isTrue)) := by
  rw [eval, hl, hr]
  cases h : a.isTrue <;> simp [h]

theorem eval_orElse (hl : left.eval r = some a) (hr : right.eval r = some b) :
    (binary .orElse left right).eval r = some (.bool (a.isTrue || b.isTrue)) := by
  rw [eval, hl, hr]
  cases h : a.isTrue <;> simp [h]

theorem eval_call {name : String} (hl : left.eval r = some a) (hr : right.eval r = some b) :
    (call left name [right]).eval r = a.call? name [b] := by
  simp only [eval, evalList, hl, hr]

theorem eval_staticCall {name : String} (hl : left.eval r = some a) (hr : right.eval r = some b) :
    (staticCall name [left, right]).eval r = Value.staticCall? name [a, b] := by
  simp only [eval, evalList, hl, hr, Option.bind_some]

end Operands

/-! ## The parameter -/

/-- A member keeps its value without a record if its target does. -/
theorem remains_member_none (record : Option Record) {target : Expr} (name : String)
    (h : Remains target.usesParameter (target.eval record) (target.eval none)) :
    Remains target.usesParameter ((member target name).eval record)
      ((member target name).eval none) := by
  by_cases hp : ∃ p, target = parameter p
  · obtain ⟨p, rfl⟩ := hp
    exact .inr ⟨rfl, rfl⟩
  · have hne : ∀ p, target ≠ parameter p := not_exists.mp hp
    rw [eval_member_of_ne hne, eval_member_of_ne hne]
    exact h.bind fun _ => .refl _

mutual

/-- A value that an expression has on a record is at most lost without it, and only with the
parameter. -/
theorem remains_eval_none (record : Option Record) : ∀ e : Expr,
    Remains e.usesParameter (e.eval record) (e.eval none)
  | parameter _ => .refl _
  | constant _ => .refl _
  | member target name => remains_member_none record name (remains_eval_none record target)
  | convert inner => by
    rw [usesParameter, eval, eval]
    exact remains_eval_none record inner
  | not inner => by
    rw [usesParameter, eval, eval]
    exact (remains_eval_none record inner).map _
  | negate inner => by
    rw [usesParameter, eval, eval]
    exact (remains_eval_none record inner).bind fun _ => .refl _
  | binary op left right => by
    rw [usesParameter, eval_binary, eval_binary]
    have hl := (remains_eval_none record left).left right.usesParameter
    have hr := (remains_eval_none record right).right left.usesParameter
    exact hl.bind fun a => op.remains_goOn? a hr
  | call target name args => by
    rw [usesParameter, eval_call_eq_bind, eval_call_eq_bind]
    have htarget := (remains_eval_none record target).left (anyUsesParameter args)
    have hargs := (remains_evalList_none record args).right target.usesParameter
    exact hargs.bind fun _ => htarget.bind fun _ => .refl _
  | staticCall name args => by
    rw [usesParameter, eval, eval]
    exact (remains_evalList_none record args).bind fun _ => .refl _
  | list items => by
    rw [usesParameter, eval, eval]
    exact (remains_evalList_none record items).map _

theorem remains_evalList_none (record : Option Record) : ∀ es : List Expr,
    Remains (anyUsesParameter es) (evalList record es) (evalList none es)
  | [] => .refl _
  | e :: es => by
    rw [anyUsesParameter, evalList_cons, evalList_cons]
    have he := (remains_eval_none record e).left (anyUsesParameter es)
    have hes := (remains_evalList_none record es).right e.usesParameter
    exact he.bind fun v => hes.map (v :: ·)

end

/-- An expression without the parameter has the same value on every record as without one. -/
theorem eval_of_noParameter {e : Expr} (h : e.usesParameter = false) (r : Record) :
    e.eval (some r) = e.evaluate := by
  rcases remains_eval_none (some r) e with heq | ⟨hp, -⟩
  · exact heq
  · exact absurd (hp.symm.trans h) Bool.noConfusion

/-- A value that is there without a record is there on every record. -/
theorem eval_of_evaluate {e : Expr} {v : Value} (hv : e.evaluate = some v) (r : Record) :
    e.eval (some r) = some v :=
  (remains_eval_none (some r) e).eq_some hv

/-- The value that an expression has without a record it has on every record, also where it uses the
parameter. An expression without the parameter that has no value has none on any record either. -/
theorem evaluate_approximates (e : Expr) (r : Record) :
    (∀ v, e.evaluate = some v → e.evaluateOn r = some v) ∧
      (e.usesParameter = false → e.evaluate = e.evaluateOn r) :=
  ⟨fun _ hv => eval_of_evaluate hv r, fun hp => (eval_of_noParameter hp r).symm⟩

/-- A condition on the parameter that is decided before the parameter is reached. -/
def decidedEarly : Expr :=
  .binary .orElse (.binary .equal (.constant (.int 1)) (.constant (.int 1)))
    (.member (.parameter "x") "Active")

/-- A quotient without value. -/
def zeroQuotient : Expr :=
  .binary .divide (.constant (.int 1)) (.constant (.int 0))

theorem evaluate_approximates_decided :
    decidedEarly.usesParameter = true ∧ decidedEarly.evaluate = some (.bool true) ∧
    decidedEarly.evaluateOn (Document.record ⟨[("Active", .bool false)]⟩) = some (.bool true) ∧
    zeroQuotient.usesParameter = false ∧ zeroQuotient.evaluate = none ∧
    zeroQuotient.evaluateOn (Document.record ⟨[("Active", .bool false)]⟩) = none := by
  have hdecided : decidedEarly.evaluate = some (.bool true) := rfl
  have hquotient : zeroQuotient.evaluate = none := rfl
  obtain ⟨hsame, -⟩ :=
    evaluate_approximates decidedEarly (Document.record ⟨[("Active", .bool false)]⟩)
  obtain ⟨-, hequal⟩ :=
    evaluate_approximates zeroQuotient (Document.record ⟨[("Active", .bool false)]⟩)
  exact ⟨rfl, hdecided, hsame _ hdecided, rfl, hquotient, (hequal rfl).symm.trans hquotient⟩

/-- A field of the parameter has the value that the record has there. -/
theorem eval_of_asMember (r : Record) {p f : String} :
    ∀ {e : Expr}, e.asMember? = some (parameter p, f) → e.eval (some r) = some (r.value f)
  | member _ _, h => by
    simp only [asMember?, Option.some.injEq, Prod.mk.injEq] at h
    obtain ⟨rfl, rfl⟩ := h
    rfl
  | convert inner, h => by
    rw [eval, eval_of_asMember r (e := inner) h]

/-- A field of the parameter uses the parameter. -/
theorem usesParameter_of_asMember {p f : String} :
    ∀ {e : Expr}, e.asMember? = some (parameter p, f) → e.usesParameter = true
  | member _ _, h => by
    simp only [asMember?, Option.some.injEq, Prod.mk.injEq] at h
    obtain ⟨rfl, rfl⟩ := h
    rfl
  | convert inner, h => by
    rw [usesParameter, usesParameter_of_asMember (e := inner) h]

end RecordQuery.Expr
