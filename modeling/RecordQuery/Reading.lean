/-!
# Reading off the front of a list

A reader takes something off the front of a list and returns it with the rest. `Reading` records that
the rest is shorter, so a reader may call itself on it.
-/

namespace RecordQuery

/-- Something read off the front of `source`, and what is left. -/
structure Reading (α : Type) {τ : Type} (source : List τ) where
  value : α
  rest : List τ
  shorter : rest.length < source.length

namespace Reading

variable {α β τ : Type} {s t : List τ}

/-- Replaces what was read. -/
def map (f : α → β) (r : Reading α s) : Reading β s :=
  ⟨f r.value, r.rest, r.shorter⟩

/-- What was read off a list `s` no longer than `t` was read off `t`. -/
def within (r : Reading α s) (h : s.length ≤ t.length) : Reading α t :=
  ⟨r.value, r.rest, Nat.lt_of_lt_of_le r.shorter h⟩

theorem tail_shorter {r : Reading α s} {x : τ} {rest : List τ} (h : r.rest = x :: rest) :
    rest.length < s.length :=
  Nat.lt_trans (by simp [h]) r.shorter

end Reading

end RecordQuery
