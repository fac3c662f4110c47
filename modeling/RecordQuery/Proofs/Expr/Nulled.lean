import RecordQuery.Proofs.Expr.Eval
import RecordQuery.Proofs.Expr.Steps

/-!
# Null in the place of operands without value

A condition reads an operand that has no value as null, whereas an expression with such an operand has
no value either. `Expr.nulled` writes null in the place of these operands, which is how a query
understands the expression. `eval_nulled` says that the values that the expression has stay the same:
nulling gives values where there were none, and changes none.
-/

namespace RecordQuery.Expr

/-- An operand, or null in its place if it has no value. The parameter has its values on records. -/
def orNull (e : Expr) : Expr :=
  if e.usesParameter || e.evaluate.isSome then e else constant .null

/-- An expression with null for the operands of its conditions that have no value. -/
def nulled : Expr → Expr
  | binary op left right =>
    if op.isComparison then binary op left.orNull right.orNull
    else binary op left.nulled right.nulled
  | call target name args => if target.usesParameter then call target name (args.map orNull)
    else call target name args
  | not inner => not inner.nulled
  | convert inner => convert inner.nulled
  | e => e

variable {e : Expr} {r : Record}

theorem orNull_of_usesParameter (h : e.usesParameter = true) : e.orNull = e := by
  simp only [orNull, h, Bool.true_or, ↓reduceIte]

theorem orNull_of_evaluate {v : Value} (h : e.evaluate = some v) : e.orNull = e := by
  simp only [orNull, h, Option.isSome_some, Bool.or_true, ↓reduceIte]

theorem orNull_eq_self (h : e.usesParameter = false → ∃ v, e.evaluate = some v) : e.orNull = e := by
  cases hp : e.usesParameter with
  | true => exact orNull_of_usesParameter hp
  | false =>
    obtain ⟨v, hv⟩ := h hp
    exact orNull_of_evaluate hv

/-- The operand of a condition always has a value, which is null if it had none. -/
theorem eval_orNull_of_noParameter (h : e.usesParameter = false) (r : Record) :
    e.orNull.eval (some r) = some (e.evaluate.getD .null) := by
  cases hv : e.evaluate with
  | none =>
    simp only [orNull, h, hv, Option.isSome_none, Bool.or_self, Bool.false_eq_true, ↓reduceIte]
    rfl
  | some v =>
    rw [orNull_of_evaluate hv]
    exact eval_of_evaluate hv r

/-- An operand that has a value keeps it. -/
theorem remains_orNull (r : Record) (e : Expr) :
    Remains true (e.orNull.eval (some r)) (e.eval (some r)) := by
  cases hp : e.usesParameter with
  | true =>
    rw [orNull_of_usesParameter hp]
    exact .refl _
  | false =>
    rw [eval_orNull_of_noParameter hp, eval_of_noParameter hp]
    cases e.evaluate with
    | none => exact .inr ⟨rfl, rfl⟩
    | some v => exact .refl _

theorem remains_map_orNull (r : Record) (es : List Expr) :
    Remains true (evalList (some r) (es.map orNull)) (evalList (some r) es) := by
  induction es with
  | nil => exact .refl _
  | cons e es ih =>
    rw [List.map_cons, evalList_cons, evalList_cons]
    exact (remains_orNull r e).bind fun v => ih.map (v :: ·)

theorem remains_nulled (r : Record) (e : Expr) :
    Remains true (e.nulled.eval (some r)) (e.eval (some r)) := by
  fun_induction nulled e with
  | case1 op left right hop =>
    rw [eval_binary, eval_binary]
    exact (remains_orNull r left).bind fun a => op.remains_goOn? a (remains_orNull r right)
  | case2 op left right hop ihl ihr =>
    rw [eval_binary, eval_binary]
    exact ihl.bind fun a => op.remains_goOn? a ihr
  | case3 target name args ht =>
    rw [eval_call_eq_bind, eval_call_eq_bind]
    exact (remains_map_orNull r args).bind fun _ => .refl _
  | case5 inner ih =>
    rw [eval, eval]
    exact ih.map _
  | case6 inner ih =>
    rw [eval, eval]
    exact ih
  | _ => exact .refl _

/-- An expression that has a value keeps it. -/
theorem eval_nulled (e : Expr) {v : Value} (h : e.eval (some r) = some v) :
    e.nulled.eval (some r) = some v :=
  (remains_nulled r e).eq_some h

end RecordQuery.Expr
