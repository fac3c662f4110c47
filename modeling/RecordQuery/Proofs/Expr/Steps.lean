import RecordQuery.Expr.Eval

/-!
# The steps of an evaluation

`Expr.eval` goes from the values of the parts of an expression to the value of the whole. Each step is
written here with `Option.bind`: what needs a value that is missing is missing itself. So what is said of
two evaluations by `Remains`, that they agree or that the second has lost its value, goes through every
step (`Remains.bind`, `BinaryOp.remains_goOn?`), and an induction on expressions only has to look at the
places where two evaluations differ.
-/

namespace RecordQuery

/-! ## Values that may get lost -/

/-- Two results are the same, or the second is lost, where `lost` allows it. -/
def Remains {α : Type} (lost : Bool) (a b : Option α) : Prop :=
  a = b ∨ lost = true ∧ b = none

namespace Remains

variable {α β : Type} {lost : Bool} {a b : Option α}

theorem refl (a : Option α) : Remains lost a a :=
  .inl rfl

theorem eq_some {v : α} (h : Remains lost a b) (hb : b = some v) : a = some v := by
  rcases h with rfl | ⟨-, hnone⟩
  · exact hb
  · cases hnone.symm.trans hb

/-- A value that is lost in one part of an expression is lost in the whole. -/
theorem left {l : Bool} (h : Remains l a b) (r : Bool) : Remains (l || r) a b :=
  h.imp_right fun ⟨hlost, hb⟩ => ⟨by rw [hlost, Bool.true_or], hb⟩

theorem right {r : Bool} (h : Remains r a b) (l : Bool) : Remains (l || r) a b := by
  rw [Bool.or_comm]
  exact h.left l

/-- What goes on from a lost value is lost. -/
theorem bind {f g : α → Option β} (h : Remains lost a b) (hf : ∀ x, Remains lost (f x) (g x)) :
    Remains lost (a.bind f) (b.bind g) := by
  rcases h with rfl | ⟨hlost, rfl⟩
  · cases a with
    | none => exact refl none
    | some x => exact hf x
  · exact .inr ⟨hlost, rfl⟩

theorem map (f : α → β) (h : Remains lost a b) : Remains lost (a.map f) (b.map f) := by
  rw [Option.map_eq_bind, Option.map_eq_bind]
  exact h.bind fun x => refl (some (f x))

end Remains

/-! ## The steps of an evaluation -/

/-- What an operation comes to once its left side has the value `a`. The right side may not count. -/
def BinaryOp.goOn? (op : BinaryOp) (a : Value) (right : Option Value) : Option Value :=
  match op with
  | .andAlso => if a.isTrue then right.map fun b => .bool b.isTrue else some (.bool false)
  | .orElse => if a.isTrue then some (.bool true) else right.map fun b => .bool b.isTrue
  | op => right.bind fun b => op.apply? a b

theorem BinaryOp.remains_goOn? {lost : Bool} {b c : Option Value} (op : BinaryOp) (a : Value)
    (h : Remains lost b c) : Remains lost (op.goOn? a b) (op.goOn? a c) := by
  cases op with
  | andAlso =>
    simp only [goOn?]
    split
    · exact h.map _
    · exact .refl _
  | orElse =>
    simp only [goOn?]
    split
    · exact .refl _
    · exact h.map _
  | _ => exact h.bind fun _ => .refl _

namespace Expr

/-- A member of anything but the parameter is a member of its value. -/
theorem eval_member_of_ne {target : Expr} (h : ∀ p, target ≠ parameter p) (record : Option Record)
    (name : String) :
    (member target name).eval record = (target.eval record).bind (·.member? name) := by
  rw [eval]
  exact fun p _ hp _ => h p hp

/-- Without a record the parameter is like anything else. -/
theorem eval_member_none (target : Expr) (name : String) :
    (member target name).eval none = (target.eval none).bind (·.member? name) := by
  rw [eval]
  exact fun _ _ _ hr => nomatch hr

theorem eval_binary (record : Option Record) (op : BinaryOp) (left right : Expr) :
    (binary op left right).eval record =
      (left.eval record).bind fun a => op.goOn? a (right.eval record) := by
  cases op <;> simp only [eval, BinaryOp.goOn?] <;>
    cases left.eval record <;> cases right.eval record <;> rfl

theorem eval_call_eq_bind (record : Option Record) (target : Expr) (name : String)
    (args : List Expr) :
    (call target name args).eval record =
      (evalList record args).bind fun vs => (target.eval record).bind (·.call? name vs) := by
  rw [eval]
  cases evalList record args <;> cases target.eval record <;> rfl

theorem evalList_cons (record : Option Record) (e : Expr) (es : List Expr) :
    evalList record (e :: es) =
      (e.eval record).bind fun v => (evalList record es).map (v :: ·) := by
  rw [evalList]
  cases e.eval record <;> cases evalList record es <;> rfl

end Expr

end RecordQuery
