import RecordQuery.Proofs.Expr.Steps

/-!
# Conversions in expressions

A conversion leaves a value as it is, so that an expression has the value that it has without any
conversion (`Expr.unconverted`). There is one exception: a member of the parameter is read from the
record, but a member of the converted parameter has no value. `evaluate_unconverted` says that this is
the only difference, and that it can only lose a value, never change it.

The proof is one induction on the expression (`eval_unconverted`), which carries `Remains`. Members are
the one step at which the two evaluations can part (`remains_member`).
-/

namespace RecordQuery

namespace Expr

mutual

/-- An expression with the operand in the place of every conversion. -/
def unconverted : Expr → Expr
  | parameter name => parameter name
  | constant v => constant v
  | member target name => member target.unconverted name
  | convert inner => inner.unconverted
  | not inner => not inner.unconverted
  | negate inner => negate inner.unconverted
  | binary op left right => binary op left.unconverted right.unconverted
  | call target name args => call target.unconverted name (unconvertedList args)
  | staticCall name args => staticCall name (unconvertedList args)
  | list items => list (unconvertedList items)

/-- Expressions with the operand in the place of every conversion. -/
def unconvertedList : List Expr → List Expr
  | [] => []
  | e :: es => e.unconverted :: unconvertedList es

end

/-- Whether an expression is the parameter behind some conversions. -/
def isConvertedParameter : Expr → Bool
  | convert (parameter _) => true
  | convert inner => inner.isConvertedParameter
  | _ => false

mutual

/-- Whether an expression takes a member of the converted parameter. -/
def readsConverted : Expr → Bool
  | parameter _ => false
  | constant _ => false
  | member target _ => target.isConvertedParameter || target.readsConverted
  | convert inner => inner.readsConverted
  | not inner => inner.readsConverted
  | negate inner => inner.readsConverted
  | binary _ left right => left.readsConverted || right.readsConverted
  | call target _ args => anyReadsConverted args || target.readsConverted
  | staticCall _ args => anyReadsConverted args
  | list items => anyReadsConverted items

/-- Whether one of the expressions takes a member of the converted parameter. -/
def anyReadsConverted : List Expr → Bool
  | [] => false
  | e :: es => e.readsConverted || anyReadsConverted es

end

/-! ## Members -/

/-- The converted parameter has no value. -/
theorem eval_of_isConvertedParameter (record : Option Record) :
    ∀ {e : Expr}, e.isConvertedParameter = true → e.eval record = none
  | convert (parameter _), _ => rfl
  | convert (convert inner), h => eval_of_isConvertedParameter record (e := convert inner) h

/-- What is the parameter without conversions is the parameter or the converted parameter. -/
theorem eq_or_isConvertedParameter {p : String} :
    ∀ {e : Expr}, e.unconverted = parameter p → e = parameter p ∨ e.isConvertedParameter = true
  | parameter _, h => .inl h
  | convert inner, h => by
    rw [unconverted] at h
    rcases eq_or_isConvertedParameter (e := inner) h with rfl | hc
    · exact .inr rfl
    · cases inner with
      | parameter _ => cases hc
      | _ => exact .inr hc

/-! ## The whole evaluation -/

/-- A member keeps its value if its target does. On a record, a member of the converted parameter is
lost. -/
theorem remains_member {record : Option Record} {target : Expr} (name : String)
    (h : Remains (record.isSome && target.readsConverted) (target.unconverted.eval record)
      (target.eval record)) :
    Remains (record.isSome && (member target name).readsConverted)
      ((member target name).unconverted.eval record) ((member target name).eval record) := by
  rw [readsConverted, unconverted, Bool.and_or_distrib_left]
  have htarget := h.right (record.isSome && target.isConvertedParameter)
  cases record with
  | none =>
    -- here the parameter has no members either, so that nothing depends on what the target is
    rw [eval_member_none, eval_member_none]
    exact htarget.bind fun _ => .refl _
  | some r =>
    by_cases hp : ∃ p, target = parameter p
    · obtain ⟨p, rfl⟩ := hp
      exact .refl _
    · have hne : ∀ p, target ≠ parameter p := not_exists.mp hp
      cases hc : target.isConvertedParameter with
      | true =>
        have hlost : (member target name).eval (some r) = none := by
          rw [eval_member_of_ne hne, eval_of_isConvertedParameter _ hc]
          rfl
        exact .inr ⟨rfl, hlost⟩
      | false =>
        have hne' : ∀ p, target.unconverted ≠ parameter p := by
          intro p hu
          rcases eq_or_isConvertedParameter hu with heq | hconverted
          · exact hne p heq
          · exact Bool.false_ne_true (hc.symm.trans hconverted)
        rw [eval_member_of_ne hne, eval_member_of_ne hne', ← hc]
        exact htarget.bind fun _ => .refl _

mutual

/-- A value that an expression has without conversions is at most lost with them. -/
theorem eval_unconverted (record : Option Record) : ∀ e : Expr,
    Remains (record.isSome && e.readsConverted) (e.unconverted.eval record) (e.eval record)
  | parameter _ => .refl _
  | constant _ => .refl _
  | member target name => remains_member name (eval_unconverted record target)
  | convert inner => by
    rw [unconverted, readsConverted, eval]
    exact eval_unconverted record inner
  | not inner => by
    rw [unconverted, readsConverted, eval, eval]
    exact (eval_unconverted record inner).map _
  | negate inner => by
    rw [unconverted, readsConverted, eval, eval]
    exact (eval_unconverted record inner).bind fun _ => .refl _
  | binary op left right => by
    rw [unconverted, readsConverted, Bool.and_or_distrib_left, eval_binary, eval_binary]
    have hl := (eval_unconverted record left).left (record.isSome && right.readsConverted)
    have hr := (eval_unconverted record right).right (record.isSome && left.readsConverted)
    exact hl.bind fun a => op.remains_goOn? a hr
  | call target name args => by
    rw [unconverted, readsConverted, Bool.and_or_distrib_left, eval_call_eq_bind, eval_call_eq_bind]
    have hargs := (evalList_unconverted record args).left (record.isSome && target.readsConverted)
    have htarget := (eval_unconverted record target).right (record.isSome && anyReadsConverted args)
    exact hargs.bind fun _ => htarget.bind fun _ => .refl _
  | staticCall name args => by
    rw [unconverted, readsConverted, eval, eval]
    exact (evalList_unconverted record args).bind fun _ => .refl _
  | list items => by
    rw [unconverted, readsConverted, eval, eval]
    exact (evalList_unconverted record items).map _

theorem evalList_unconverted (record : Option Record) : ∀ es : List Expr,
    Remains (record.isSome && anyReadsConverted es) (evalList record (unconvertedList es))
      (evalList record es)
  | [] => .refl _
  | e :: es => by
    rw [unconvertedList, anyReadsConverted, Bool.and_or_distrib_left, evalList_cons, evalList_cons]
    have he := (eval_unconverted record e).left (record.isSome && anyReadsConverted es)
    have hes := (evalList_unconverted record es).right (record.isSome && e.readsConverted)
    exact he.bind fun v => hes.map (v :: ·)

end

/-- Without a record, an expression has the value that it has without conversions. On a record it has
that value too, unless it takes a member of the converted parameter: then it may have no value. -/
theorem evaluate_unconverted (e : Expr) (r : Record) :
    e.evaluate = e.unconverted.evaluate ∧
    (e.evaluateOn r = e.unconverted.evaluateOn r ∨
      e.readsConverted = true ∧ e.evaluateOn r = none) := by
  constructor
  · rcases eval_unconverted none e with heq | ⟨hlost, -⟩
    · exact heq.symm
    · cases hlost
  · rcases eval_unconverted (some r) e with heq | ⟨hlost, hnone⟩
    · exact .inl heq.symm
    · exact .inr ⟨hlost, hnone⟩

/-- The age of the converted parameter. -/
def convertedAge : Expr :=
  .member (.convert (.parameter "x")) "Age"

/-- The age of the parameter is read from the record, but that of the converted parameter is not. -/
theorem evaluateOn_convertedAge :
    convertedAge.evaluateOn (Document.record ⟨[("Age", .int 5)]⟩) = none ∧
    convertedAge.unconverted.evaluateOn (Document.record ⟨[("Age", .int 5)]⟩) = some (.int 5) :=
  ⟨rfl, rfl⟩

end Expr

end RecordQuery
