import RecordQuery.Decimal.Digits
import RecordQuery.Text.Letter

/-!
# Reading a written number

`value_digits` says that a number is what its digits stand for. The digits are digits
(`isDigit_of_mem_digits`), and there is at least one (`digits_ne_nil`).
-/

namespace RecordQuery.Decimal

theorem digitValue_digitChar {d : Nat} (h : d < 10) : digitValue (digitChar d) = d := by
  have hall : ∀ d < 10, digitValue (digitChar d) = d := by decide
  exact hall d h

theorem isDigit_digitChar {d : Nat} (h : d < 10) : Text.isDigit (digitChar d) = true := by
  have hall : ∀ d < 10, Text.isDigit (digitChar d) = true := by decide
  exact hall d h

/-- The last digit is worth itself, and those before it ten times as much as alone. -/
theorem value_append_singleton (cs : List Char) (c : Char) :
    value (cs ++ [c]) = value cs * 10 + digitValue c := by
  simp only [value, valueFrom, List.foldl_append, List.foldl_cons, List.foldl_nil]

theorem value_digits (n : Nat) : value (digits n) = n := by
  induction n using digits.induct with
  | case1 n h =>
    rw [digits, if_pos h]
    show 0 * 10 + digitValue (digitChar n) = n
    rw [digitValue_digitChar h]
    omega
  | case2 n h ih =>
    rw [digits, if_neg h, value_append_singleton, ih, digitValue_digitChar (Nat.mod_lt n (by decide))]
    omega

theorem digits_ne_nil (n : Nat) : digits n ≠ [] := by
  rw [digits]
  split
  · exact List.cons_ne_nil _ _
  · exact List.append_ne_nil_of_right_ne_nil _ (List.cons_ne_nil _ _)

theorem isDigit_of_mem_digits (n : Nat) : ∀ c ∈ digits n, Text.isDigit c = true := by
  induction n using digits.induct with
  | case1 n h =>
    rw [digits, if_pos h]
    intro c hc
    rw [List.mem_singleton.mp hc]
    exact isDigit_digitChar h
  | case2 n h ih =>
    rw [digits, if_neg h]
    intro c hc
    rcases List.mem_append.mp hc with hc | hc
    · exact ih c hc
    · rw [List.mem_singleton.mp hc]
      exact isDigit_digitChar (Nat.mod_lt n (by decide))

end RecordQuery.Decimal
