/-!
# Named things

`Fields α` holds things by name, in the order of their names, each name at most once. It carries the
entries of a map value, the fields of a document, the bindings of a lambda and the parameters of a
text query.

The list is in strictly increasing order of names (`Fields.Ordered`) because every way to build one
goes through `insert`, which keeps that order (`Fields.Ordered.insert`). What is under a name after that
`Fields.get?_insert` says.
-/

namespace RecordQuery

/-- Things by name, in the order of their names. -/
abbrev Fields (α : Type) := List (String × α)

namespace Fields

variable {α β : Type}

/-- Puts a thing under a name, in place of the one that has the name already. -/
def insert (name : String) (x : α) : Fields α → Fields α
  | [] => [(name, x)]
  | (n, y) :: rest =>
    if name < n then (name, x) :: (n, y) :: rest
    else if name = n then (name, x) :: rest
    else (n, y) :: insert name x rest

/-- The things of a list by name. Of several under one name the last counts. -/
def ofList (pairs : List (String × α)) : Fields α :=
  pairs.foldl (fun fields p => fields.insert p.1 p.2) []

/-- The thing under a name. -/
def get? : Fields α → String → Option α
  | [], _ => none
  | (n, x) :: rest, name => if name = n then some x else get? rest name

/-- The names are in strictly increasing order. -/
def Ordered (fields : Fields α) : Prop :=
  fields.Pairwise fun p q => p.1 < q.1

theorem get?_insert (fields : Fields α) (name n : String) (x : α) :
    (insert name x fields).get? n = if n = name then some x else fields.get? n := by
  induction fields with
  | nil => simp only [insert, get?]
  | cons p rest ih =>
    unfold insert
    split
    · rfl
    · split
      · rename_i h
        subst h
        simp only [get?]
        split <;> rfl
      · rename_i h
        simp only [get?, ih]
        split
        · rename_i hn
          rw [if_neg (fun hc => h (hc.symm.trans hn))]
        · rfl

theorem mem_insert {name : String} {x : α} {fields : Fields α} {p : String × α}
    (h : p ∈ insert name x fields) : p = (name, x) ∨ p ∈ fields := by
  induction fields with
  | nil => exact .inl (List.mem_singleton.mp h)
  | cons q rest ih =>
    unfold insert at h
    split at h
    · exact List.mem_cons.mp h
    · split at h
      · exact (List.mem_cons.mp h).imp_right (List.mem_cons_of_mem _)
      · rcases List.mem_cons.mp h with rfl | h
        · exact .inr List.mem_cons_self
        · exact (ih h).imp_right (List.mem_cons_of_mem _)

/-- Putting a thing under a name keeps the order. -/
theorem Ordered.insert {name : String} {x : α} {fields : Fields α} (h : Ordered fields) :
    Ordered (insert name x fields) := by
  induction fields with
  | nil => exact List.pairwise_singleton ..
  | cons q rest ih =>
    obtain ⟨hq, hrest⟩ := List.pairwise_cons.mp h
    unfold Fields.insert
    split
    · rename_i hlt
      refine List.pairwise_cons.mpr ⟨fun p hp => ?_, h⟩
      rcases List.mem_cons.mp hp with rfl | hp
      · exact hlt
      · exact String.lt_trans hlt (hq p hp)
    · split
      · rename_i heq
        exact List.pairwise_cons.mpr ⟨fun p hp => heq ▸ hq p hp, hrest⟩
      · rename_i hlt hne
        refine List.pairwise_cons.mpr ⟨fun p hp => ?_, ih hrest⟩
        rcases mem_insert hp with rfl | hp
        · exact Std.lt_of_le_of_ne (String.not_lt.mp hlt) (Ne.symm hne)
        · exact hq p hp

/-- Whatever the order of a list, its things by name are in order. -/
theorem Ordered.ofList (pairs : List (String × α)) : Ordered (ofList pairs) := by
  unfold Fields.ofList
  suffices h : ∀ fields : Fields α, Ordered fields →
      Ordered (pairs.foldl (fun fields p => fields.insert p.1 p.2) fields) from
    h [] List.Pairwise.nil
  induction pairs with
  | nil => exact fun _ h => h
  | cons p rest ih => exact fun fields h => ih _ h.insert

end Fields

end RecordQuery
