import RecordQuery.Proofs.Translation.Shape

/-!
# How the translation of a lambda fails

A lambda that stands for no condition has a malformed expression, and there is no other reason:
`malformed_of_translate`. The groups that are built on the way never fail, because no part of them is a
subquery.
-/

namespace RecordQuery.Translation

/-- A translation that fails only with a fault of the expression. -/
def OnlyMalformed {α : Type} (r : Result α) : Prop :=
  ∀ err, r = .error err → ∃ fault, err = .malformed fault

namespace OnlyMalformed

variable {α β : Type}

theorem ok (a : α) : OnlyMalformed (.ok a) :=
  nofun

theorem fail (fault : Malformed) : OnlyMalformed (Translation.fail fault : Result α) := by
  rintro err ⟨⟩
  exact ⟨fault, rfl⟩

theorem bind {x : Result α} {f : α → Result β} (hx : OnlyMalformed x)
    (hf : ∀ a, x = .ok a → OnlyMalformed (f a)) : OnlyMalformed (x >>= f) := by
  intro err h
  cases x with
  | error e =>
    obtain ⟨fault, rfl⟩ := hx e rfl
    exact ⟨fault, (Except.error.inj h).symm⟩
  | ok a => exact hf a rfl err h

end OnlyMalformed

variable (p : String)

theorem onlyMalformed_fieldOf (e : Expr) : OnlyMalformed (fieldOf p e) := by
  unfold fieldOf
  split
  · split
    · exact .ok _
    · exact .fail _
  · exact .fail _

theorem onlyMalformed_operandOf (e : Expr) : OnlyMalformed (operandOf p e) := by
  unfold operandOf
  split
  · exact .fail _
  · exact .ok _

theorem onlyMalformed_collectionOf (e : Expr) : OnlyMalformed (collectionOf p e) := by
  unfold collectionOf
  split
  · exact .fail _
  · split
    · exact .ok _
    · exact .fail _

/-- A condition on a field fails where its field or its operand does. -/
theorem onlyMalformed_condition {operand : Result Operand} (h : OnlyMalformed operand) (e : Expr)
    (operator : Comparison) :
    OnlyMalformed (do return condition (← fieldOf p e) operator (← operand)) :=
  (onlyMalformed_fieldOf p e).bind fun _ _ => h.bind fun _ _ => .ok _

theorem onlyMalformed_comparison (op : BinaryOp) (left right : Expr) :
    OnlyMalformed (comparison p op left right) := by
  unfold comparison
  split
  · exact .fail _
  · exact onlyMalformed_condition p (onlyMalformed_operandOf p right) left _
  · exact onlyMalformed_condition p (onlyMalformed_operandOf p left) right _

theorem onlyMalformed_membership (collection item : Expr) :
    OnlyMalformed (membership p collection item) :=
  onlyMalformed_condition p (onlyMalformed_collectionOf p collection) item _

theorem onlyMalformed_call (receiver : Expr) (method : String) (args : List Expr) :
    OnlyMalformed (call p receiver method args) := by
  unfold call
  split
  · split
    · exact onlyMalformed_condition p (onlyMalformed_operandOf p _) receiver _
    · split
      · exact onlyMalformed_membership p receiver _
      · exact .fail _
  · exact .fail _

theorem onlyMalformed_staticCall (method : String) (args : List Expr) :
    OnlyMalformed (staticCall p method args) := by
  unfold staticCall
  split
  · exact onlyMalformed_membership p _ _
  · exact .fail _

theorem onlyMalformed_truth (operator : Comparison) (e : Expr) :
    OnlyMalformed (truth p operator e) :=
  (onlyMalformed_fieldOf p e).bind fun _ _ => .ok _

theorem onlyMalformed_negate (entry : Entry Query) : OnlyMalformed (negate entry) := by
  unfold negate
  split
  · exact .ok _
  · exact .ok _
  · exact .fail _

/-- What translated expressions are nested in always takes them. -/
theorem onlyMalformed_connective {left right : Expr} (connector : Connector)
    (hl : OnlyMalformed (translate p left)) (hr : OnlyMalformed (translate p right)) :
    OnlyMalformed (do connective connector (← translate p left) (← translate p right)) := by
  refine hl.bind fun a ha => hr.bind fun b hb => ?_
  have hla := (translates_of_translate p left ha).2.not_subquery
  have hrb := (translates_of_translate p right hb).2.not_subquery
  rw [connective_eq hla hrb]
  exact .ok _

/-- An expression that is no condition is malformed. -/
theorem onlyMalformed_translate (e : Expr) : OnlyMalformed (translate p e) := by
  fun_induction translate p e with
  | case1 left right ihl ihr => exact onlyMalformed_connective p .and ihl ihr
  | case2 left right ihl ihr => exact onlyMalformed_connective p .or ihl ihr
  | case3 op left right => exact onlyMalformed_comparison p op left right
  | case4 => exact .fail _
  | case5 receiver method args => exact onlyMalformed_call p receiver method args
  | case6 method args => exact onlyMalformed_staticCall p method args
  | case7 e ih => exact ih
  | case8 => exact onlyMalformed_truth p _ _
  | case9 => exact onlyMalformed_truth p _ _
  | case10 e _ _ _ _ ih => exact ih.bind fun entry _ => onlyMalformed_negate entry
  | case11 => exact .fail _
  | case12 e ih => exact ih
  | case13 => exact onlyMalformed_truth p _ _
  | case14 => exact .fail _

end RecordQuery.Translation

namespace RecordQuery

/-- A lambda is translated or has a malformed expression. -/
theorem Lambda.malformed_of_translate {l : Lambda} {err : QueryError}
    (h : l.translate = .error err) : ∃ fault, err = .malformed fault :=
  Translation.onlyMalformed_translate l.parameter l.body err h

end RecordQuery
