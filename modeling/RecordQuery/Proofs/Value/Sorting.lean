import RecordQuery.Proofs.Value.Order

/-!
# The laws of sorting

`sortCompare` puts null first and goes by `compare` otherwise. Values that `compare` does not order are
equal to it, so a value of one kind is equal to all values of every other kind. `compare_trans` is
transitivity within the kinds that have an order. `sortCompare_laws` says which laws of a total order
sorting has: the sides may always change places, and transitivity fails exactly where a value stands
between two others that it has no order with, but that have one with each other.
-/

namespace RecordQuery.Value

/-- Whether a value is a float. -/
def isFloat : Value → Bool
  | float _ => true
  | _ => false

/-- Two values, neither of them null, that sorting calls equal for want of an order. -/
structure Unrelated (a b : Value) : Prop where
  left : a.isNull = false
  right : b.isNull = false
  unordered : a.compare b = none

/-! ## Order within a kind -/

/-- Two values with an order and no float among them are of one kind, and there the order is
transitive. -/
theorem compare_trans {a b c : Value} {o o' : Ordering} (ha : a.isFloat = false)
    (hb : b.isFloat = false) (hc : c.isFloat = false) (hab : a.compare b = some o)
    (hbc : b.compare c = some o') :
    ∃ o'', a.compare c = some o'' ∧ (o ≠ .gt → o' ≠ .gt → o'' ≠ .gt) ∧
      (o = .eq → o' = .eq → o'' = .eq) := by
  cases b with
  | null | list _ | map _ => cases a <;> cases hab
  | float _ => cases hb
  | bool _ | int _ | string _ =>
    cases a <;> first | (cases hab; done) | (cases ha; done) | skip
    cases c <;> first | (cases hbc; done) | (cases hc; done) | skip
    rw [← Option.some.inj hab, ← Option.some.inj hbc]
    simp only [ne_eq, ← Ordering.isLE_iff_ne_gt]
    exact ⟨_, rfl, Std.TransCmp.isLE_trans, Std.TransCmp.eq_trans⟩

theorem compare_eq_none_comm {a b : Value} : a.compare b = none ↔ b.compare a = none := by
  rw [compare_swap b a, Option.map_eq_none_iff]

/-- Two values with an order have none with the same values. -/
theorem compare_eq_none_congr {a b c : Value} {o : Ordering} (ha : a.isFloat = false)
    (hb : b.isFloat = false) (hc : c.isFloat = false) (hab : a.compare b = some o) :
    a.compare c = none ↔ b.compare c = none := by
  constructor
  · intro hac
    cases hbc : b.compare c with
    | none => rfl
    | some o' =>
      obtain ⟨_, h, -⟩ := compare_trans ha hb hc hab hbc
      exact nomatch hac.symm.trans h
  · intro hbc
    have hba : b.compare a = some o.swap := by rw [compare_swap a b, hab]; rfl
    cases hac : a.compare c with
    | none => rfl
    | some o' =>
      obtain ⟨_, h, -⟩ := compare_trans hb ha hc hba hac
      exact nomatch hbc.symm.trans h

/-! ## Sorting -/

theorem sortCompare_null_left (b : Value) : null.sortCompare b = if b.isNull then .eq else .lt := by
  cases b <;> rfl

theorem sortCompare_null_right {a : Value} (ha : a.isNull = false) : a.sortCompare null = .gt := by
  cases a <;> first | (cases ha; done) | rfl

theorem sortCompare_of_not_null {a b : Value} (ha : a.isNull = false) (hb : b.isNull = false) :
    a.sortCompare b = (a.compare b).getD .eq := by
  cases a <;> cases b <;> first | rfl | (cases ha; done) | cases hb

/-- Only values with an order are not equal for sorting. -/
theorem compare_of_sortCompare {a b : Value} {o : Ordering} (ha : a.isNull = false)
    (hb : b.isNull = false) (h : a.sortCompare b = o) (ho : o ≠ .eq) : a.compare b = some o := by
  rw [sortCompare_of_not_null ha hb] at h
  cases hab : a.compare b with
  | none => exact absurd (by rw [← h, hab]; rfl) ho
  | some o' => rw [← h, hab]; rfl

theorem eq_null {a : Value} (h : a.isNull = true) : a = null := by
  cases a <;> first | rfl | cases h

/-- The order for sorting turns round when the values change places. -/
theorem sortCompare_swap (a b : Value) : b.sortCompare a = (a.sortCompare b).swap := by
  cases ha : a.isNull <;> cases hb : b.isNull
  · rw [sortCompare_of_not_null ha hb, sortCompare_of_not_null hb ha, compare_swap a b]
    cases a.compare b <;> rfl
  · rw [eq_null hb, sortCompare_null_left, ha, sortCompare_null_right ha]
    rfl
  · rw [eq_null ha, sortCompare_null_left, hb, sortCompare_null_right hb]
    rfl
  · rw [eq_null ha, eq_null hb]
    rfl

/-- Sorting is transitive from a value to one that it has an order with, and on to any other. -/
theorem sortCompare_trans {a b c : Value} (ha : a.isFloat = false) (hb : b.isFloat = false)
    (hc : c.isFloat = false) (h : ¬ Unrelated a b) :
    (a.sortCompare b ≠ .gt → b.sortCompare c ≠ .gt → a.sortCompare c ≠ .gt) ∧
      (a.sortCompare b = .eq → b.sortCompare c = .eq → a.sortCompare c = .eq) := by
  cases hna : a.isNull with
  | true =>
    rw [eq_null hna, sortCompare_null_left, sortCompare_null_left]
    cases hnb : b.isNull with
    | true =>
      rw [eq_null hnb, sortCompare_null_left]
      exact ⟨fun _ h => h, fun _ h => h⟩
    | false => exact ⟨fun _ _ => by split <;> nofun, nofun⟩
  | false =>
    cases hnb : b.isNull with
    | true =>
      rw [eq_null hnb, sortCompare_null_right hna]
      exact ⟨fun h => absurd rfl h, nofun⟩
    | false =>
      obtain ⟨o, hab⟩ := Option.ne_none_iff_exists'.mp fun hab => h ⟨hna, hnb, hab⟩
      cases hnc : c.isNull with
      | true =>
        rw [eq_null hnc, sortCompare_null_right hnb]
        exact ⟨fun _ h => absurd rfl h, nofun⟩
      | false =>
        rw [sortCompare_of_not_null hna hnb, sortCompare_of_not_null hnb hnc,
          sortCompare_of_not_null hna hnc, hab]
        cases hbc : b.compare c with
        | none =>
          rw [(compare_eq_none_congr ha hb hc hab).mpr hbc]
          exact ⟨fun _ h => h, fun _ h => h⟩
        | some o' =>
          obtain ⟨o'', hac, hle, heq⟩ := compare_trans ha hb hc hab hbc
          rw [hac]
          exact ⟨hle, heq⟩

/-- A value is equal for sorting to two that it is unrelated to, whatever their order is. -/
theorem sortCompare_of_unrelated {a b c : Value} {o : Ordering} (ha : a.isFloat = false)
    (hb : b.isFloat = false) (hc : c.isFloat = false) (h : Unrelated a b)
    (hac : a.compare c = some o) :
    a.sortCompare b = .eq ∧ b.sortCompare c = .eq ∧ a.sortCompare c = o := by
  have hnc : c.isNull = false := by
    cases c <;> first | rfl | (cases a <;> cases hac)
  have hbc : b.compare c = none :=
    compare_eq_none_comm.mp ((compare_eq_none_congr ha hc hb hac).mp h.unordered)
  rw [sortCompare_of_not_null h.left h.right, sortCompare_of_not_null h.right hnc,
    sortCompare_of_not_null h.left hnc, h.unordered, hbc, hac]
  exact ⟨rfl, rfl, rfl⟩

/-- Sorting values without floats is by a total order, except that two values with an order may both be
equal to a third one that has no order with them. -/
theorem sortCompare_laws {a b c : Value} (ha : a.isFloat = false) (hb : b.isFloat = false)
    (hc : c.isFloat = false) :
    b.sortCompare a = (a.sortCompare b).swap ∧
    ((a.sortCompare b ≠ .gt → b.sortCompare c ≠ .gt → a.sortCompare c ≠ .gt) ↔
      ¬ (Unrelated a b ∧ a.compare c = some .gt)) ∧
    ((a.sortCompare b = .eq → b.sortCompare c = .eq → a.sortCompare c = .eq) ↔
      ¬ (Unrelated a b ∧ ∃ o, a.compare c = some o ∧ o ≠ .eq)) := by
  -- behind an unrelated value, nothing but null could break the premises
  have hnc (hu : Unrelated a b) (hbc : b.sortCompare c ≠ .gt) : c.isNull = false := by
    cases h : c.isNull with
    | false => rfl
    | true => exact absurd (by rw [eq_null h, sortCompare_null_right hu.right]) hbc
  refine ⟨sortCompare_swap a b, ⟨?_, ?_⟩, ⟨?_, ?_⟩⟩
  · rintro htrans ⟨hu, hac⟩
    obtain ⟨hab, hbc, hgt⟩ := sortCompare_of_unrelated ha hb hc hu hac
    exact htrans (by rw [hab]; nofun) (by rw [hbc]; nofun) hgt
  · intro h
    by_cases hu : Unrelated a b
    · intro _ hbc hgt
      exact h ⟨hu, compare_of_sortCompare hu.left (hnc hu hbc) hgt nofun⟩
    · exact (sortCompare_trans ha hb hc hu).1
  · rintro htrans ⟨hu, o, hac, ho⟩
    obtain ⟨hab, hbc, heq⟩ := sortCompare_of_unrelated ha hb hc hu hac
    exact ho (heq.symm.trans (htrans hab hbc))
  · intro h
    by_cases hu : Unrelated a b
    · intro _ hbc
      refine Decidable.byContradiction fun hne => ?_
      have hc' := hnc hu (by rw [hbc]; nofun)
      exact h ⟨hu, _, compare_of_sortCompare hu.left hc' rfl hne, hne⟩
    · exact (sortCompare_trans ha hb hc hu).2

/-- A string behind two numbers. -/
theorem sortCompare_laws_numbersAndWord :
    (int 1).isFloat = false ∧ (int 2).isFloat = false ∧ (string "x").isFloat = false ∧
    (int 2).sortCompare (int 1) = ((int 1).sortCompare (int 2)).swap ∧
    (((int 1).sortCompare (int 2) ≠ .gt → (int 2).sortCompare (string "x") ≠ .gt →
        (int 1).sortCompare (string "x") ≠ .gt) ↔
      ¬ (Unrelated (int 1) (int 2) ∧ (int 1).compare (string "x") = some .gt)) ∧
    (((int 1).sortCompare (int 2) = .eq → (int 2).sortCompare (string "x") = .eq →
        (int 1).sortCompare (string "x") = .eq) ↔
      ¬ (Unrelated (int 1) (int 2) ∧ ∃ o, (int 1).compare (string "x") = some o ∧ o ≠ .eq)) :=
  ⟨rfl, rfl, rfl, sortCompare_laws rfl rfl rfl⟩

/-- A string between two numbers that are in the wrong order. -/
theorem sortCompare_word_between_numbers :
    (int 1).sortCompare (string "x") = .eq ∧ (string "x").sortCompare (int 0) = .eq ∧
      (int 1).sortCompare (int 0) = .gt := by
  decide

end RecordQuery.Value
