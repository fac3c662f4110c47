import RecordQuery.Proofs.Query.Filter

/-!
# The laws of comparing values

Order turns round and equality stays when two values change places, and so each relational comparison
goes over into its swapped form. Equality is not identity, since a number equals every number of the
same size and a NaN equals nothing. Where no float is inside, it is: `equal_iff_eq`, by induction on
both values with their items and entries. So on such values equality is an equivalence, and to be in a
list is to be one of its items. `comparison_laws` collects this.
-/

namespace RecordQuery.Value

/-! ## Values without floats -/

/-- The value is no float, and none is inside it. -/
inductive FloatFree : Value → Prop
  | null : FloatFree null
  | bool (b : Bool) : FloatFree (bool b)
  | int (n : Int64) : FloatFree (int n)
  | string (s : String) : FloatFree (string s)
  | list {items : List Value} (h : ∀ v ∈ items, FloatFree v) : FloatFree (list items)
  | map {entries : Fields Value} (h : ∀ p ∈ entries, FloatFree p.2) : FloatFree (map entries)

mutual

/-- Without floats, a value is equal to itself alone. -/
theorem equal_iff_eq : ∀ {a b : Value}, a.FloatFree → b.FloatFree → (a.equal b = true ↔ a = b)
  | list xs, list ys, .list hx, .list hy => by
    rw [equal, equalItems_iff_eq hx hy, list.injEq]
  | map xs, map ys, .map hx, .map hy => by
    rw [equal, equalEntries_iff_eq hx hy, map.injEq]
  | null, _, _, hb => by cases hb <;> simp [equal, compare]
  | bool _, _, _, hb => by cases hb <;> simp [equal, compare]
  | int _, _, _, hb => by cases hb <;> simp [equal, compare, Int64.toInt_inj]
  | string _, _, _, hb => by cases hb <;> simp [equal, compare]
  | list _, null, _, _ | list _, bool _, _, _ | list _, int _, _, _ | list _, string _, _, _
  | list _, map _, _, _ => by simp [equal, compare]
  | map _, null, _, _ | map _, bool _, _, _ | map _, int _, _, _ | map _, string _, _, _
  | map _, list _, _, _ => by simp [equal, compare]

theorem equalItems_iff_eq : ∀ {xs ys : List Value}, (∀ v ∈ xs, FloatFree v) →
    (∀ v ∈ ys, FloatFree v) → (equalItems xs ys = true ↔ xs = ys)
  | [], [], _, _ => by simp [equalItems]
  | [], _ :: _, _, _ => by simp [equalItems]
  | _ :: _, [], _, _ => by simp [equalItems]
  | x :: xs, y :: ys, hx, hy => by
    rw [List.forall_mem_cons] at hx hy
    rw [equalItems, Bool.and_eq_true, equal_iff_eq hx.1 hy.1, equalItems_iff_eq hx.2 hy.2,
      List.cons.injEq]

theorem equalEntries_iff_eq : ∀ {xs ys : List (String × Value)}, (∀ p ∈ xs, FloatFree p.2) →
    (∀ p ∈ ys, FloatFree p.2) → (equalEntries xs ys = true ↔ xs = ys)
  | [], [], _, _ => by simp [equalEntries]
  | [], _ :: _, _, _ => by simp [equalEntries]
  | _ :: _, [], _, _ => by simp [equalEntries]
  | (m, x) :: xs, (n, y) :: ys, hx, hy => by
    rw [List.forall_mem_cons] at hx hy
    rw [equalEntries, Bool.and_eq_true, Bool.and_eq_true, beq_iff_eq, equal_iff_eq hx.1 hy.1,
      equalEntries_iff_eq hx.2 hy.2, List.cons.injEq, Prod.mk.injEq]

end

theorem beq_iff_eq_of_floatFree {a b : Value} (ha : a.FloatFree) (hb : b.FloatFree) :
    (a == b) = true ↔ a = b :=
  equal_iff_eq ha hb

/-- Without floats, the values in a list are its items. -/
theorem isIn_list_iff_mem {v : Value} {items : List Value} (hv : v.FloatFree)
    (hitems : ∀ x ∈ items, x.FloatFree) : v.isIn (list items) = true ↔ v ∈ items := by
  rw [isIn, List.any_eq_true]
  constructor
  · rintro ⟨x, hx, hequal⟩
    rw [← (beq_iff_eq_of_floatFree (hitems x hx) hv).mp hequal]
    exact hx
  · intro hmem
    exact ⟨v, hmem, (beq_iff_eq_of_floatFree hv hv).mpr rfl⟩

/-! ## The laws -/

/-- What holds when two values are compared. The order of the sides matters to no relational comparison
but for its swap, and values without floats are equal only if they are the same. -/
theorem comparison_laws :
    (∀ a b : Value, b.compare a = (a.compare b).map Ordering.swap ∧ (b == a) = (a == b)) ∧
      (∀ op : Comparison, op.isRelational = true → ∀ a b : Value,
        op.swap.meets b a = op.meets a b) ∧
      (∀ a b : Value, a.FloatFree → b.FloatFree → ((a == b) = true ↔ a = b)) ∧
      Equivalence (fun a b : {v : Value // v.FloatFree} => (a.1 == b.1) = true) ∧
      ∀ (v : Value) (items : List Value), v.FloatFree → (∀ x ∈ items, x.FloatFree) →
        (v.isIn (list items) = true ↔ v ∈ items) := by
  have hsame (a b : {v : Value // v.FloatFree}) : (a.1 == b.1) = true ↔ a.1 = b.1 :=
    beq_iff_eq_of_floatFree a.2 b.2
  refine ⟨fun a b => ⟨compare_swap a b, beq_comm b a⟩, fun op hop a b => op.meets_swap hop a b,
    fun a b => beq_iff_eq_of_floatFree, ⟨fun a => ?_, fun {a b} h => ?_, fun {a b c} h h' => ?_⟩,
    fun v items => isIn_list_iff_mem⟩
  · exact (hsame a a).mpr rfl
  · rw [beq_comm]
    exact h
  · exact (hsame a c).mpr (((hsame a b).mp h).trans ((hsame b c).mp h'))

/-- Tags of two kinds, as a list inside a map. -/
def taggedNumbers : Value :=
  map [("Numbers", list [int 1, null]), ("Tag", string "odd")]

theorem comparison_laws_taggedNumbers :
    taggedNumbers.FloatFree ∧ (taggedNumbers == taggedNumbers) = true ∧
      taggedNumbers.isIn (list [null, taggedNumbers]) = true ∧
      Comparison.lessThan.swap.meets (float 1.5) (int 1) =
        Comparison.lessThan.meets (int 1) (float 1.5) := by
  have hnumbers : FloatFree (list [int 1, null]) :=
    .list fun v hv => by
      obtain rfl | rfl : v = int 1 ∨ v = null := by simpa using hv
      · exact .int 1
      · exact .null
  have hfree : taggedNumbers.FloatFree :=
    .map fun p hp => by
      obtain rfl | rfl : p = ("Numbers", list [int 1, null]) ∨ p = ("Tag", string "odd") := by
        simpa using hp
      · exact hnumbers
      · exact .string "odd"
  have hitems : ∀ x ∈ [null, taggedNumbers], x.FloatFree := by
    intro x hx
    obtain rfl | rfl : x = null ∨ x = taggedNumbers := by simpa using hx
    · exact .null
    · exact hfree
  obtain ⟨-, hswap, hidentity, -, hmem⟩ := comparison_laws
  refine ⟨hfree, (hidentity _ _ hfree hfree).mpr rfl, (hmem _ _ hfree hitems).mpr ?_,
    hswap .lessThan rfl (int 1) (float 1.5)⟩
  exact List.mem_cons_of_mem null (List.mem_singleton_self taggedNumbers)

end RecordQuery.Value
