import RecordQuery.Proofs.StableSort
import RecordQuery.Proofs.Value.Sorting
import RecordQuery.Query.Build
import RecordQuery.Query.Filter

/-!
# Sorting records

Where every field that a query sorts by holds values of one kind, or null, sorting is by a total order
(`SortKey.transCmp`, although it is not in general). Then `Query.sort` is the stable sort by the first
key that tells two records apart, which `sort_stable` says in the positions of the records, and it is
the same to sort by each key alone, from the last to the first.
-/

namespace RecordQuery

/-! ## Values of one kind -/

/-- A kind of values that has an order. -/
inductive OrderedKind
  | bool
  | int
  | string

namespace Value

/-- Whether a value is null or of a kind. -/
def fits : OrderedKind → Value → Bool
  | _, null => true
  | .bool, bool _ => true
  | .int, int _ => true
  | .string, string _ => true
  | _, _ => false

/-- The order of the values of each kind, with null before all others. -/
inductive Before : Value → Value → Prop
  | null {b : Value} (h : b.isNull = false) : Before null b
  | bool : Before (bool false) (bool true)
  | int {m n : Int64} (h : m.toInt < n.toInt) : Before (int m) (int n)
  | string {s t : String} (h : s < t) : Before (string s) (string t)

variable {kind : OrderedKind} {a b : Value}

theorem isFloat_of_fits (h : a.fits kind = true) : a.isFloat = false := by
  cases a with
  | float _ => cases kind <;> cases h
  | _ => rfl

theorem before_null_left : Before null b ↔ b.isNull = false := by
  constructor
  · rintro ⟨h⟩
    exact h
  · exact .null

theorem not_before_null : ¬ Before a null := by
  rintro (h | _ | _ | _)
  cases h

theorem exists_of_fits : a.fits kind = true → a.isNull = false →
    match kind with
    | .bool => ∃ x, a = bool x
    | .int => ∃ n, a = int n
    | .string => ∃ s, a = string s := by
  intro h hn
  cases kind <;> cases a <;> first | exact ⟨_, rfl⟩ | (cases hn; done) | cases h

/-- Two values of one kind, neither of them null, have an order. -/
theorem compare_of_fits (ha : a.fits kind = true) (hb : b.fits kind = true) (hna : a.isNull = false)
    (hnb : b.isNull = false) :
    ∃ o, a.compare b = some o ∧ (o = .lt ↔ Before a b) ∧ (o = .eq ↔ a = b) := by
  have hexa := exists_of_fits ha hna
  have hexb := exists_of_fits hb hnb
  cases kind with
  | bool =>
    obtain ⟨x, rfl⟩ := hexa
    obtain ⟨y, rfl⟩ := hexb
    refine ⟨_, rfl, ?_, Std.compare_eq_iff_eq.trans (by rw [bool.injEq])⟩
    constructor
    · intro h
      cases x <;> cases y <;> first | exact .bool | cases h
    · rintro ⟨⟩
      rfl
  | int =>
    obtain ⟨m, rfl⟩ := hexa
    obtain ⟨n, rfl⟩ := hexb
    refine ⟨_, rfl, Int.compare_eq_lt.trans ⟨.int, ?_⟩, ?_⟩
    · rintro (_ | _ | h | _)
      exact h
    · rw [Std.compare_eq_iff_eq, Int64.toInt_inj, int.injEq]
  | string =>
    obtain ⟨s, rfl⟩ := hexa
    obtain ⟨t, rfl⟩ := hexb
    refine ⟨_, rfl, compareOfLessAndEq_eq_lt.trans ⟨.string, ?_⟩, ?_⟩
    · rintro (_ | _ | _ | h)
      exact h
    · rw [Std.compare_eq_iff_eq, string.injEq]

/-- For values of one kind, sorting goes by their order and takes nothing but the same value for
equal. -/
theorem sortCompare_of_fits (ha : a.fits kind = true) (hb : b.fits kind = true) :
    (a.sortCompare b = .lt ↔ Before a b) ∧ (a.sortCompare b = .eq ↔ a = b) := by
  cases hna : a.isNull with
  | true =>
    rw [eq_null hna, sortCompare_null_left, before_null_left]
    cases hnb : b.isNull with
    | true => simp [eq_null hnb]
    | false =>
      have hne : null ≠ b := by
        rintro rfl
        cases hnb
      simp [hne]
  | false =>
    cases hnb : b.isNull with
    | true =>
      have hne : a ≠ null := by
        rintro rfl
        cases hna
      rw [eq_null hnb, sortCompare_null_right hna]
      simp [hne, not_before_null]
    | false =>
      obtain ⟨o, hab, hlt, heq⟩ := compare_of_fits ha hb hna hnb
      rw [sortCompare_of_not_null hna hnb, hab]
      exact ⟨hlt, heq⟩

theorem not_unrelated_of_fits (ha : a.fits kind = true) (hb : b.fits kind = true) :
    ¬ Unrelated a b := by
  rintro ⟨hna, hnb, hnone⟩
  obtain ⟨o, hab, -⟩ := compare_of_fits ha hb hna hnb
  rw [hab] at hnone
  cases hnone

/-- Sorting values of one kind is by a total order. -/
theorem transCmp_sortCompare {β : Type} {v : β → Value} (h : ∀ x, (v x).fits kind = true) :
    Std.TransCmp fun x y => (v x).sortCompare (v y) where
  eq_swap {x y} := sortCompare_swap (v y) (v x)
  isLE_trans {x y z} hxy hyz := by
    rw [Ordering.isLE_iff_ne_gt] at hxy hyz ⊢
    exact (sortCompare_trans (isFloat_of_fits (h x)) (isFloat_of_fits (h y)) (isFloat_of_fits (h z))
      (not_unrelated_of_fits (h x) (h y))).1 hxy hyz

end Value

/-! ## The order of records -/

/-- Whether a sort key puts a record before another. -/
def SortKey.Puts (k : SortKey) (a b : Record) : Prop :=
  if k.descending then (b.value k.field).Before (a.value k.field)
  else (a.value k.field).Before (b.value k.field)

/-- Whether the first sort key that tells two records apart puts one before the other. -/
inductive Precedes (a b : Record) : List SortKey → Prop
  | first {k : SortKey} (h : k.Puts a b) (keys : List SortKey) : Precedes a b (k :: keys)
  | later {k : SortKey} {keys : List SortKey} (hk : a.value k.field = b.value k.field)
      (h : Precedes a b keys) : Precedes a b (k :: keys)

/-- Whether no sort key tells two records apart. -/
def Tied (a b : Record) (keys : List SortKey) : Prop :=
  ∀ k ∈ keys, a.value k.field = b.value k.field

theorem tied_cons {a b : Record} {k : SortKey} {keys : List SortKey} :
    Tied a b (k :: keys) ↔ a.value k.field = b.value k.field ∧ Tied a b keys :=
  List.forall_mem_cons

/-- Whether a field holds values of one kind, or null, in each of some records. -/
def OfOneKind {α : Type} (record : α → Record) (xs : List α) (field : String) : Prop :=
  ∃ kind, ∀ x ∈ xs, ((record x).value field).fits kind = true

namespace SortKey

variable {k : SortKey} {kind : OrderedKind}

theorem compare_iff {a b : Record} (ha : (a.value k.field).fits kind = true)
    (hb : (b.value k.field).fits kind = true) :
    (k.compare a b = .lt ↔ k.Puts a b) ∧
      (k.compare a b = .eq ↔ a.value k.field = b.value k.field) := by
  simp only [compare, Puts, ← Value.sortCompare_swap (a.value k.field)]
  cases k.descending with
  | false => exact Value.sortCompare_of_fits ha hb
  | true =>
    obtain ⟨hlt, heq⟩ := Value.sortCompare_of_fits hb ha
    exact ⟨hlt, heq.trans eq_comm⟩

theorem transCmp {β : Type} {record : β → Record}
    (h : ∀ x, ((record x).value k.field).fits kind = true) :
    Std.TransCmp fun x y => k.compare (record x) (record y) := by
  have horder := Value.transCmp_sortCompare h
  simp only [compare, ← Value.sortCompare_swap ((record _).value k.field)]
  cases k.descending with
  | false => exact horder
  | true =>
    simp only [↓reduceIte]
    exact @Std.TransCmp.opposite _ _ horder

end SortKey

namespace Query

variable {α β : Type} {keys : List SortKey}

theorem compareBy_cons (k : SortKey) (keys : List SortKey) (a b : Record) :
    compareBy (k :: keys) a b = (k.compare a b).then (compareBy keys a b) := rfl

/-- The comparison by several keys is the lexicographic order of records. -/
theorem compareBy_iff {a b : Record}
    (h : ∀ k ∈ keys, ∃ kind, (a.value k.field).fits kind = true ∧ (b.value k.field).fits kind = true) :
    (compareBy keys a b = .lt ↔ Precedes a b keys) ∧ (compareBy keys a b = .eq ↔ Tied a b keys) := by
  induction keys with
  | nil => exact ⟨⟨nofun, nofun⟩, ⟨fun _ => nofun, fun _ => rfl⟩⟩
  | cons k keys ih =>
    obtain ⟨⟨kind, ha, hb⟩, hkeys⟩ := List.forall_mem_cons.mp h
    obtain ⟨hlt, heq⟩ := SortKey.compare_iff ha hb
    obtain ⟨ihlt, iheq⟩ := ih hkeys
    rw [compareBy_cons, Ordering.then_eq_lt, Ordering.then_eq_eq, hlt, heq, ihlt, iheq, tied_cons]
    refine ⟨⟨?_, ?_⟩, .rfl⟩
    · rintro (hfirst | ⟨hk, hlater⟩)
      · exact .first hfirst keys
      · exact .later hk hlater
    · rintro (hfirst | ⟨hk, hlater⟩)
      · exact .inl hfirst
      · exact .inr ⟨hk, hlater⟩

theorem transCmp_compareBy {record : β → Record}
    (h : ∀ k ∈ keys, ∃ kind, ∀ x, ((record x).value k.field).fits kind = true) :
    Std.TransCmp fun x y => compareBy keys (record x) (record y) := by
  induction keys with
  | nil => exact { eq_swap := rfl, isLE_trans := fun _ _ => rfl }
  | cons k keys ih =>
    obtain ⟨⟨kind, hk⟩, hkeys⟩ := List.forall_mem_cons.mp h
    have hfirst := SortKey.transCmp hk
    have hrest := ih hkeys
    exact inferInstanceAs (Std.TransCmp (compareLex (fun x y => k.compare (record x) (record y))
      fun x y => compareBy keys (record x) (record y)))

/-! ## Sorting by one key after the other -/

/-- The query with one sort key in place of its own. -/
def sortingBy (q : Query) (k : SortKey) : Query :=
  q.configure fun s => { s with sorts := [k] }

theorem sort_eq (q : Query) (record : α → Record) (xs : List α) :
    q.sort record xs = sortedBy (fun x y => compareBy q.settings.sorts (record x) (record y)) xs := rfl

theorem sort_sortingBy (q : Query) (k : SortKey) (record : α → Record) (xs : List α) :
    (q.sortingBy k).sort record xs = sortedBy (fun x y => k.compare (record x) (record y)) xs := by
  have hone (x y : α) : compareBy [k] (record x) (record y) = k.compare (record x) (record y) :=
    Ordering.then_eq
  simp only [sort_eq, sortingBy, configure, hone]

/-- The records sorted by each key alone, from the last key to the first. -/
def sortEach (keys : List SortKey) (record : α → Record) (xs : List α) : List α :=
  keys.foldr (fun k ys => sortedBy (fun x y => k.compare (record x) (record y)) ys) xs

theorem sortEach_cons (k : SortKey) (keys : List SortKey) (record : α → Record) (xs : List α) :
    sortEach (k :: keys) record xs =
      sortedBy (fun x y => k.compare (record x) (record y)) (sortEach keys record xs) := rfl

theorem map_sortEach (f : β → α) (keys : List SortKey) (record : α → Record) (xs : List β) :
    (sortEach keys (fun x => record (f x)) xs).map f = sortEach keys record (xs.map f) := by
  induction keys with
  | nil => rfl
  | cons k keys ih =>
    rw [sortEach_cons, sortEach_cons, ← ih]
    exact map_sortedBy f (fun x y => k.compare (record x) (record y)) _

/-- Elements that stand in some order are sorted by all keys by sorting them by each alone. -/
theorem sortedBy_compareBy {record : β → Record} {R : β → β → Prop} {xs : List β}
    (hR : ∀ x y, R x y → ¬ R y x) (hxs : xs.Pairwise R)
    (h : ∀ k ∈ keys, ∃ kind, ∀ x, ((record x).value k.field).fits kind = true) :
    sortedBy (fun x y => compareBy keys (record x) (record y)) xs = sortEach keys record xs := by
  induction keys with
  | nil => exact List.mergeSort_of_pairwise (List.pairwise_of_forall fun _ _ => rfl)
  | cons k keys ih =>
    obtain ⟨⟨kind, hk⟩, hkeys⟩ := List.forall_mem_cons.mp h
    have hfirst := SortKey.transCmp hk
    have hrest := transCmp_compareBy hkeys
    rw [sortEach_cons, ← ih hkeys, ← sortedBy_then hR hxs]
    rfl

/-! ## The result of sorting -/

/-- The positions of records in the order that a query sorts them in. -/
def sortedPositions (q : Query) (record : α → Record) (xs : List α) : List (Fin xs.length) :=
  sortedBy (fun i j => compareBy q.settings.sorts (record (xs.get i)) (record (xs.get j)))
    (List.finRange xs.length)

theorem map_sortedPositions (q : Query) (record : α → Record) (xs : List α) :
    (q.sortedPositions record xs).map xs.get = q.sort record xs := by
  rw [sortedPositions, map_sortedBy xs.get fun x y => compareBy _ (record x) (record y),
    List.map_get_finRange]
  rfl

/-- If every field to sort by holds values of one kind, or null, the query arranges the records by the
first key that tells two of them apart, and leaves those that no key tells apart as they are. Without
sort keys it leaves all as they are. Sorting by each key alone, from the last to the first, does the
same. -/
theorem sort_stable {q : Query} {record : α → Record} {xs : List α}
    (h : ∀ k ∈ q.settings.sorts, OfOneKind record xs k.field) :
    (q.sort record xs).Perm xs ∧
    (∃ positions : List (Fin xs.length), positions.Perm (List.finRange xs.length) ∧
      q.sort record xs = positions.map xs.get ∧
      positions.Pairwise fun i j =>
        Precedes (record (xs.get i)) (record (xs.get j)) q.settings.sorts ∨
          (Tied (record (xs.get i)) (record (xs.get j)) q.settings.sorts ∧ i < j)) ∧
    (q.settings.sorts = [] → q.sort record xs = xs) ∧
    q.sort record xs = q.settings.sorts.foldr (fun k ys => (q.sortingBy k).sort record ys) xs := by
  have hkinds : ∀ k ∈ q.settings.sorts, ∃ kind, ∀ i : Fin xs.length,
      ((record (xs.get i)).value k.field).fits kind = true := by
    intro k hk
    obtain ⟨kind, hkind⟩ := h k hk
    exact ⟨kind, fun i => hkind _ (xs.get_mem i)⟩
  have heach : q.sort record xs = sortEach q.settings.sorts record xs := by
    have hpositions : q.sortedPositions record xs = sortEach q.settings.sorts
        (fun i => record (xs.get i)) (List.finRange xs.length) :=
      sortedBy_compareBy (R := (· < ·)) (fun _ _ => Fin.lt_asymm) (List.pairwise_lt_finRange _) hkinds
    rw [← map_sortedPositions, hpositions, map_sortEach xs.get, List.map_get_finRange]
  refine ⟨sortedBy_perm _ xs, ⟨q.sortedPositions record xs, sortedBy_perm _ _,
    (map_sortedPositions q record xs).symm, ?_⟩, fun hnone => ?_, ?_⟩
  · have horder := transCmp_compareBy hkinds
    refine (pairwise_sortedBy (List.pairwise_lt_finRange xs.length)).imp fun {i j} hij => ?_
    have hpair : ∀ k ∈ q.settings.sorts, ∃ kind,
        ((record (xs.get i)).value k.field).fits kind = true ∧
          ((record (xs.get j)).value k.field).fits kind = true := by
      intro k hk
      obtain ⟨kind, hkind⟩ := hkinds k hk
      exact ⟨kind, hkind i, hkind j⟩
    obtain ⟨hlt, heq⟩ := compareBy_iff hpair
    exact hij.imp hlt.mp (And.imp_left heq.mp)
  · rw [heach, hnone]
    rfl
  · simp only [sort_sortingBy]
    exact heach

/-- A sort by status, the highest first, and then by age. -/
def byStatusThenAge : Query :=
  (empty.orderBy "Status" true).orderBy "Age" false

/-- Users of whom one has no age, and two have the same status and age. -/
def staff : List Document :=
  [.ofPairs [("Name", .string "Ann"), ("Status", .int 0), ("Age", .int 17)],
    .ofPairs [("Name", .string "Bob"), ("Status", .int 1), ("Age", .int 18)],
    .ofPairs [("Name", .string "Cid"), ("Status", .int 1), ("Age", .null)],
    .ofPairs [("Name", .string "Dan"), ("Status", .int 1), ("Age", .int 18)]]

theorem sort_stable_staff :
    (∀ k ∈ byStatusThenAge.settings.sorts, OfOneKind Document.record staff k.field) ∧
    (∃ positions : List (Fin staff.length), positions.Perm (List.finRange staff.length) ∧
      byStatusThenAge.sort Document.record staff = positions.map staff.get ∧
      positions.Pairwise fun i j =>
        Precedes (staff.get i).record (staff.get j).record byStatusThenAge.settings.sorts ∨
          (Tied (staff.get i).record (staff.get j).record byStatusThenAge.settings.sorts ∧ i < j)) ∧
    byStatusThenAge.sort Document.record staff =
      byStatusThenAge.settings.sorts.foldr
        (fun k ys => (byStatusThenAge.sortingBy k).sort Document.record ys) staff := by
  have h : ∀ k ∈ byStatusThenAge.settings.sorts, OfOneKind Document.record staff k.field := by
    intro k hk
    refine ⟨.int, ?_⟩
    revert k
    decide
  obtain ⟨-, hpositions, -, heach⟩ := sort_stable h
  exact ⟨h, hpositions, heach⟩

end Query

end RecordQuery
