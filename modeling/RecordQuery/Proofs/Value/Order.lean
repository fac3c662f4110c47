import RecordQuery.Value.Order

/-!
# Changing the sides of a comparison

`compare_swap` says that the order of two values turns round when they change places, and `equal_comm`
that equality does not care, through lists and maps of any depth. The floats come first
(`compareFloats_swap`), by the order of their unpacked forms.
-/

namespace RecordQuery

open Float.Model (UnpackedFloat)

theorem swap_beq_lt (o : Option Ordering) :
    (o.map Ordering.swap == some .lt) = (o == some .gt) := by
  rcases o with - | (_ | _ | _) <;> rfl

theorem swap_beq_gt (o : Option Ordering) :
    (o.map Ordering.swap == some .gt) = (o == some .lt) := by
  rcases o with - | (_ | _ | _) <;> rfl

theorem swap_beq_eq (o : Option Ordering) :
    (o.map Ordering.swap == some .eq) = (o == some .eq) := by
  rcases o with - | (_ | _ | _) <;> rfl

/-! ## Floats -/

/-- The order of the magnitudes of two floats of one sign. -/
theorem magnitude_swap (e₁ e₂ : Int) (m₁ m₂ : Nat) :
    ((compare e₁ e₂).then (compare m₁ m₂)).swap = (compare e₂ e₁).then (compare m₂ m₁) := by
  have he : compare e₂ e₁ = (compare e₁ e₂).swap := Std.OrientedCmp.eq_swap
  have hm : compare m₂ m₁ = (compare m₁ m₂).swap := Std.OrientedCmp.eq_swap
  rw [Ordering.swap_then, he, hm]

theorem unpacked_compare_swap (x y : UnpackedFloat) :
    y.compare x = (x.compare y).map Ordering.swap := by
  rcases x with (_ | _) | _ | (_ | _) | ⟨_ | _, m₁, e₁, h₁⟩ <;>
  rcases y with (_ | _) | _ | (_ | _) | ⟨_ | _, m₂, e₂, h₂⟩ <;>
  first
  | rfl
  | exact congrArg some (magnitude_swap e₁ e₂ m₁ m₂).symm
  | exact congrArg (some ·.swap) (magnitude_swap e₁ e₂ m₁ m₂).symm

/-- The order of two floats is that of their unpacked forms. -/
theorem compareFloats_eq (x y : Float) :
    compareFloats x y = x.toModel.unpack.compare y.toModel.unpack := by
  have hlt (x y : Float) :
      (x < y) = ((x.toModel.unpack.compare y.toModel.unpack == some .lt) = true) := by
    show (decide (x.toModel < y.toModel) = true) = _
    rw [decide_eq_true_eq]; rfl
  have heq : (x == y) = (x.toModel.unpack.compare y.toModel.unpack == some .eq) := rfl
  simp only [compareFloats, hlt, heq, unpacked_compare_swap x.toModel.unpack y.toModel.unpack,
    swap_beq_lt]
  rcases x.toModel.unpack.compare y.toModel.unpack with - | (_ | _ | _) <;> rfl

theorem compareFloats_swap (x y : Float) :
    compareFloats y x = (compareFloats x y).map Ordering.swap := by
  rw [compareFloats_eq, compareFloats_eq, unpacked_compare_swap]

/-! ## Values -/

namespace Value

/-- The order of two values turns round when they change places. -/
theorem compare_swap (a b : Value) : b.compare a = (a.compare b).map Ordering.swap := by
  cases a <;> cases b <;> simp only [compare, Option.map_none, Option.map_some, Option.some.injEq] <;>
  first
  | exact Std.OrientedCmp.eq_swap
  | exact compareFloats_swap ..

theorem compare_beq_lt (a b : Value) : (b.compare a == some .lt) = (a.compare b == some .gt) := by
  rw [compare_swap a b, swap_beq_lt]

theorem compare_beq_gt (a b : Value) : (b.compare a == some .gt) = (a.compare b == some .lt) := by
  rw [compare_swap a b, swap_beq_gt]

theorem compare_beq_eq (a b : Value) : (b.compare a == some .eq) = (a.compare b == some .eq) := by
  rw [compare_swap a b, swap_beq_eq]

mutual

/-- Equality does not care which value comes first. -/
theorem equal_comm : ∀ a b : Value, a.equal b = b.equal a
  | list xs, list ys => by
    simp only [equal]
    exact equalItems_comm xs ys
  | map xs, map ys => by
    simp only [equal]
    exact equalEntries_comm xs ys
  | null, b => by cases b <;> rfl
  | bool _, b => by cases b <;> simp only [equal] <;> exact compare_beq_eq ..
  | int _, b => by cases b <;> simp only [equal] <;> exact compare_beq_eq ..
  | float _, b => by cases b <;> simp only [equal] <;> exact compare_beq_eq ..
  | string _, b => by cases b <;> simp only [equal] <;> exact compare_beq_eq ..
  | list _, null | list _, bool _ | list _, int _ | list _, float _ | list _, string _
  | list _, map _ => rfl
  | map _, null | map _, bool _ | map _, int _ | map _, float _ | map _, string _
  | map _, list _ => rfl

theorem equalItems_comm : ∀ xs ys : List Value, equalItems xs ys = equalItems ys xs
  | [], [] => rfl
  | [], _ :: _ => rfl
  | _ :: _, [] => rfl
  | x :: xs, y :: ys => by
    simp only [equalItems]
    rw [equal_comm x y, equalItems_comm xs ys]

theorem equalEntries_comm : ∀ xs ys : List (String × Value), equalEntries xs ys = equalEntries ys xs
  | [], [] => rfl
  | [], _ :: _ => rfl
  | _ :: _, [] => rfl
  | (m, x) :: xs, (n, y) :: ys => by
    simp only [equalEntries]
    rw [equal_comm x y, equalEntries_comm xs ys, BEq.comm (a := m)]

end

theorem beq_comm (a b : Value) : (a == b) = (b == a) :=
  equal_comm a b

/-- Nothing but null is equal to null. -/
theorem beq_null (a : Value) : (a == null) = a.isNull := by
  cases a <;> rfl

/-- Nothing but true is equal to true. -/
theorem beq_true (a : Value) : (a == bool true) = a.isTrue := by
  cases a with
  | bool b => cases b <;> rfl
  | _ => rfl

end Value

end RecordQuery
