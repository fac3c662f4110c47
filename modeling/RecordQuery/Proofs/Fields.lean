import Mathlib.Data.List.Sort
import Mathlib.Data.String.Basic
import RecordQuery.Fields

/-!
# Fields are what is under their names

Two lists of named things in order are the same if the same is under every name. A list that is in order
already is taken over as it is (`ofList_of_ordered`).
-/

namespace RecordQuery.Fields

variable {α : Type} {fields more : Fields α}

/-- What is under a name is in the list. -/
theorem mem_of_get? {name : String} {x : α} (h : fields.get? name = some x) : (name, x) ∈ fields := by
  induction fields with
  | nil => cases h
  | cons p rest ih =>
    rw [get?] at h
    split at h
    · rename_i hn
      cases h
      exact hn ▸ List.mem_cons_self
    · exact List.mem_cons_of_mem p (ih h)

/-- Each name is there once. -/
theorem Ordered.get?_of_mem {name : String} {x : α} (h : Ordered fields) (hx : (name, x) ∈ fields) :
    fields.get? name = some x := by
  induction fields with
  | nil => cases hx
  | cons p rest ih =>
    obtain ⟨hfirst, hrest⟩ := List.pairwise_cons.mp h
    rw [get?]
    rcases List.mem_cons.mp hx with rfl | hx
    · exact if_pos rfl
    · rw [if_neg (hfirst _ hx).ne']
      exact ih hrest hx

theorem Ordered.ext (h : Ordered fields) (h' : Ordered more)
    (hget : ∀ name, fields.get? name = more.get? name) : fields = more := by
  have hirrefl : Std.Irrefl fun p q : String × α => p.1 < q.1 := ⟨fun p => lt_irrefl p.1⟩
  have hantisymm : Std.Antisymm fun p q : String × α => p.1 < q.1 :=
    ⟨fun p q hpq hqp => absurd hqp hpq.asymm⟩
  refine List.Pairwise.eq_of_mem_iff h h' fun p => ⟨fun hp => ?_, fun hp => ?_⟩
  · exact mem_of_get? ((hget p.1).symm.trans (h.get?_of_mem hp))
  · exact mem_of_get? ((hget p.1).trans (h'.get?_of_mem hp))

/-- What has a name behind all others comes last. -/
theorem insert_of_lt {name : String} {x : α} (h : ∀ p ∈ fields, p.1 < name) :
    insert name x fields = fields ++ [(name, x)] := by
  induction fields with
  | nil => rfl
  | cons p rest ih =>
    have hp : p.1 < name := h p List.mem_cons_self
    rw [insert, if_neg hp.asymm, if_neg hp.ne', ih fun q hq => h q (List.mem_cons_of_mem p hq)]
    rfl

theorem mem_ofList {pairs : List (String × α)} {p : String × α} (h : p ∈ ofList pairs) : p ∈ pairs := by
  suffices hall : ∀ taken : Fields α,
      p ∈ pairs.foldl (fun fields p => fields.insert p.1 p.2) taken → p ∈ taken ∨ p ∈ pairs from
    (hall [] h).resolve_left List.not_mem_nil
  clear h
  induction pairs with
  | nil => exact fun _ h => .inl h
  | cons q rest ih =>
    intro taken h
    rcases ih _ h with h | h
    · rcases mem_insert h with rfl | h
      · exact .inr List.mem_cons_self
      · exact .inl h
    · exact .inr (List.mem_cons_of_mem q h)

theorem ofList_of_ordered (h : Ordered fields) : ofList fields = fields := by
  -- what has been taken over so far is in order with what is still to come
  suffices hall : ∀ taken : Fields α, Ordered (taken ++ fields) →
      fields.foldl (fun fields p => fields.insert p.1 p.2) taken = taken ++ fields from hall [] h
  clear h
  induction fields with
  | nil => exact fun taken _ => (List.append_nil taken).symm
  | cons p rest ih =>
    intro taken h
    have hlt : ∀ q ∈ taken, q.1 < p.1 := fun q hq =>
      (List.pairwise_append.mp h).2.2 q hq p List.mem_cons_self
    rw [List.foldl_cons, insert_of_lt hlt, List.append_cons taken p rest]
    exact ih _ (List.append_cons taken p rest ▸ h)

end RecordQuery.Fields
