import RecordQuery.Proofs.Translation.Faults
import RecordQuery.Proofs.Translation.Methods

/-!
# The sides of a comparison

`translate_swap` says that a comparison of a field with a value stands for the same condition whichever
side the field is on, and that it is malformed on both sides if it is on one. The side of the field is
found by rank where both sides are members (`fieldOnLeft?_of_isField`). One kind of node ranks above the
parameter: a member of a difference is taken for the field (`outranksField`), and then there is none.
-/

namespace RecordQuery

namespace BinaryOp

/-- The comparison that says the same once its sides have changed places. -/
def swap : BinaryOp → BinaryOp
  | lessThan => greaterThan
  | lessThanOrEqual => greaterThanOrEqual
  | greaterThan => lessThan
  | greaterThanOrEqual => lessThanOrEqual
  | op => op

theorem isComparison_swap (op : BinaryOp) : op.swap.isComparison = op.isComparison := by
  cases op <;> rfl

theorem comparison_swap (op : BinaryOp) : op.swap.comparison = op.comparison.swap := by
  cases op <;> rfl

end BinaryOp

theorem NodeKind.ordinal_lt_parameter {k : NodeKind} (hp : k ≠ .parameter) (hs : k ≠ .subtract) :
    k.ordinal < NodeKind.parameter.ordinal := by
  cases k <;> first | contradiction | decide

theorem Expr.usesParameter_innermost : ∀ e : Expr, e.innermost.usesParameter = e.usesParameter
  | .member target _ => target.usesParameter_innermost
  | .convert inner => inner.usesParameter_innermost
  | .parameter _ | .constant _ | .not _ | .negate _ | .binary .. | .call .. | .staticCall ..
  | .list _ => rfl

namespace Translation

variable {p f : String} {op : BinaryOp} {e v left right : Expr}

/-! ## Which side is the field -/

/-- Whether an expression is taken for the field opposite a field of the parameter: it is a member of a
difference. -/
def outranksField (v : Expr) : Bool :=
  isMember v && v.innermost.kind == .subtract

/-- `(1 - 2).Age` is taken for the field. -/
example : outranksField
    (.member (.binary .subtract (.constant (.int 1)) (.constant (.int 2))) "Age") = true := rfl

theorem IsField.innermost : ∀ {e : Expr} {f : String}, IsField p e f → e.innermost = .parameter p
  | .member _ _, _, h => by
    simp only [IsField, Expr.asMember?, Option.some.injEq, Prod.mk.injEq] at h
    obtain ⟨rfl, rfl⟩ := h
    rfl
  | .convert inner, _, h => by
    rw [Expr.innermost]
    exact IsField.innermost (e := inner) h

theorem kind_innermost_ne_parameter (hv : v.usesParameter = false) :
    v.innermost.kind ≠ .parameter := by
  rw [← Expr.usesParameter_innermost] at hv
  cases h : v.innermost with
  | parameter q =>
    rw [h] at hv
    cases hv
  | binary op => cases op <;> nofun
  | _ => nofun

/-- A field of the parameter is found on either side, unless the other side outranks it. -/
theorem fieldOnLeft?_of_isField (hf : IsField p e f) (hv : v.usesParameter = false) :
    fieldOnLeft? e v = some (!outranksField v) ∧ fieldOnLeft? v e = some (outranksField v) := by
  have hkind : e.innermost.kind = .parameter := by
    rw [hf.innermost]
    rfl
  unfold fieldOnLeft? outranksField
  rw [hf.isMember, hkind]
  cases isMember v with
  | false => exact ⟨rfl, rfl⟩
  | true =>
    by_cases hs : v.innermost.kind = .subtract
    · rw [hs]
      exact ⟨rfl, rfl⟩
    · have hlt := NodeKind.ordinal_lt_parameter (kind_innermost_ne_parameter hv) hs
      have hleft : decide (v.innermost.kind.ordinal ≤ NodeKind.parameter.ordinal) = true :=
        decide_eq_true (Nat.le_of_lt hlt)
      have hright : decide (NodeKind.parameter.ordinal ≤ v.innermost.kind.ordinal) = false :=
        decide_eq_false (Nat.not_le.mpr hlt)
      rw [beq_eq_false_iff_ne.mpr hs]
      exact ⟨congrArg some hleft, congrArg some hright⟩

/-! ## The condition of a field and a value -/

theorem translate_comparison (hop : op.isComparison = true) (left right : Expr) :
    translate p (.binary op left right) = comparison p op left right := by
  cases op <;> first | rfl | cases hop

/-- An expression that does not use the parameter is no field of it. -/
theorem compared_of_noParameter (operator : Comparison) (hv : v.usesParameter = false) (e : Expr) :
    compared p operator v e = fail (.notAField v p) := by
  rw [compared, fieldOf_of_noParameter hv]
  rfl

/-- Two sides that use the parameter have no value among them. -/
theorem comparison_of_usesParameter (hl : left.usesParameter = true)
    (hr : right.usesParameter = true) : ∃ fault, comparison p op left right = fail fault := by
  cases h : comparison p op left right with
  | error err =>
    obtain ⟨fault, rfl⟩ := onlyMalformed_comparison p op left right err h
    exact ⟨fault, rfl⟩
  | ok entry =>
    rw [comparison_eq] at h
    split at h
    · cases h
    · obtain ⟨-, -, hn, -⟩ := compared_eq_ok.mp h
      exact absurd hr (Bool.eq_false_iff.mp hn)
    · obtain ⟨-, -, hn, -⟩ := compared_eq_ok.mp h
      exact absurd hl (Bool.eq_false_iff.mp hn)

/-- A field can be compared with a value from either side, which makes the same condition. What is no
value, because it uses the parameter or would be taken for the field, makes none from either side. -/
theorem translate_swap (hop : op.isComparison = true) (hf : IsField p e f) (v : Expr) :
    (v.usesParameter = false ∧ outranksField v = false ∧
      translate p (.binary op e v) = .ok (condition f op.comparison (.ofExpr v)) ∧
      translate p (.binary op.swap v e) = .ok (condition f op.comparison (.ofExpr v))) ∨
    ((v.usesParameter = true ∨ outranksField v = true) ∧
      (∃ fault, translate p (.binary op e v) = .error (.malformed fault)) ∧
      ∃ fault, translate p (.binary op.swap v e) = .error (.malformed fault)) := by
  have hop' : op.swap.isComparison = true := op.isComparison_swap.trans hop
  rw [translate_comparison hop, translate_comparison hop']
  cases hv : v.usesParameter with
  | true =>
    -- whichever side is taken for the field, the other one uses the parameter
    have he : e.usesParameter = true := hf.usesParameter
    exact .inr ⟨.inl rfl, comparison_of_usesParameter he hv, comparison_of_usesParameter hv he⟩
  | false =>
    obtain ⟨hleft, hright⟩ := fieldOnLeft?_of_isField hf hv
    rw [comparison_eq, comparison_eq, hleft, hright]
    cases ho : outranksField v with
    | true =>
      -- both times the value is taken for the field, which it is not
      exact .inr ⟨.inr rfl, ⟨_, compared_of_noParameter _ hv e⟩, ⟨_, compared_of_noParameter _ hv e⟩⟩
    | false =>
      have hswap : op.swap.comparison.swap = op.comparison := by
        rw [op.comparison_swap, Comparison.swap_swap]
      have hcompared : compared p op.comparison e v = .ok (condition f op.comparison (.ofExpr v)) :=
        compared_eq_ok.mpr ⟨f, hf, hv, rfl⟩
      rw [hswap]
      exact .inl ⟨rfl, rfl, hcompared, hcompared⟩

/-- The converted age of the parameter. -/
def convertedField : Expr :=
  .convert (.member (.parameter "x") "Age")

/-- The age in a map, which is a member as well. -/
def ageLimit : Expr :=
  .member (.constant (.map [("Age", .int 21)])) "Age"

theorem translate_swap_ageLimit :
    BinaryOp.lessThanOrEqual.isComparison = true ∧ IsField "x" convertedField "Age" ∧
    translate "x" (.binary .lessThanOrEqual convertedField ageLimit) =
      .ok (condition "Age" .lessThanOrEqual (.expression ageLimit)) ∧
    translate "x" (.binary .greaterThanOrEqual ageLimit convertedField) =
      .ok (condition "Age" .lessThanOrEqual (.expression ageLimit)) := by
  have hop : BinaryOp.lessThanOrEqual.isComparison = true := rfl
  have hf : IsField "x" convertedField "Age" := rfl
  rcases translate_swap hop hf ageLimit with ⟨-, -, hleft, hright⟩ | ⟨hn, -⟩
  · exact ⟨hop, hf, hleft, hright⟩
  · rcases hn with hn | hn <;> exact absurd hn Bool.false_ne_true

end Translation

end RecordQuery
