import RecordQuery.Value.Basic

/-!
# Whole numbers in 64 bits

`int64?` takes a whole number as it is if it is in range, and no other (`int64?_eq_some`,
`int64?_eq_none`). Going to the opposite leaves the range at its lower end only.
-/

namespace RecordQuery

theorem int64?_toInt (n : Int64) : int64? n.toInt = some n := by
  unfold int64?
  rw [if_pos ⟨n.minValue_le_toInt, n.toInt_le⟩, Int64.ofInt_toInt]

theorem int64?_eq_some {n : Int} {m : Int64} : int64? n = some m ↔ m.toInt = n := by
  constructor
  · intro h
    unfold int64? at h
    split at h
    · rename_i hn
      cases h
      exact Int64.toInt_ofInt_of_le hn.1 (Int.lt_of_le_of_lt hn.2 (by decide))
    · cases h
  · rintro rfl
    exact int64?_toInt m

theorem int64?_eq_none {n : Int} :
    int64? n = none ↔ ¬ (Int64.minValue.toInt ≤ n ∧ n ≤ Int64.maxValue.toInt) := by
  unfold int64?
  split
  · rename_i hn
    exact iff_of_false nofun fun hout => hout hn
  · rename_i hn
    exact iff_of_true rfl hn

/-- The opposite of an integer leaves 64 bits for the least one only. -/
theorem int64?_neg (n : Int64) :
    int64? (-n.toInt) = if n = Int64.minValue then none else some (-n) := by
  have hmin : Int64.minValue.toInt = -9223372036854775808 := by decide
  have hmax : Int64.maxValue.toInt = 9223372036854775807 := by decide
  have hlow := n.minValue_le_toInt
  have hhigh := n.toInt_le
  unfold int64?
  by_cases hn : n = Int64.minValue
  · subst hn
    decide
  · have hne : n.toInt ≠ Int64.minValue.toInt := fun h => hn (Int64.toInt_inj.mp h)
    rw [if_neg hn, if_pos (by omega), Int64.ofInt_neg, Int64.ofInt_toInt]

end RecordQuery
