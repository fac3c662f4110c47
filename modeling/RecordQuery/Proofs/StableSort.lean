import Mathlib.Data.List.FinRange
import RecordQuery.Value.Order

/-!
# Stable sorting by comparisons

`sortedBy c` sorts stably by a comparison. What stability means is said by `pairwise_sortedBy`: the order
that a list has before decides where the comparison finds no difference. So one sort after another is a
sort by both comparisons, of which the later sort's comes first (`sortedBy_then`).
-/

namespace RecordQuery

variable {α β : Type} {c d : α → α → Ordering} {R : α → α → Prop}

/-- Sorts stably by a comparison. -/
def sortedBy (c : α → α → Ordering) (xs : List α) : List α :=
  xs.mergeSort fun a b => c a b != .gt

/-- The order by a comparison, with another relation where the comparison finds no difference. -/
def LexBy (c : α → α → Ordering) (R : α → α → Prop) (a b : α) : Prop :=
  c a b = .lt ∨ c a b = .eq ∧ R a b

theorem lexBy_then : LexBy (compareLex c d) R = LexBy c (LexBy d R) := by
  funext a b
  simp only [LexBy, compareLex, Ordering.then_eq_lt, Ordering.then_eq_eq, and_or_left, and_assoc,
    or_assoc]

theorem sortedBy_perm (c : α → α → Ordering) (xs : List α) : (sortedBy c xs).Perm xs :=
  List.mergeSort_perm ..

/-- Sorting goes by what the elements stand for. -/
theorem map_sortedBy (f : β → α) (c : α → α → Ordering) (xs : List β) :
    (sortedBy (fun a b => c (f a) (f b)) xs).map f = sortedBy c (xs.map f) :=
  List.map_mergeSort fun _ _ _ _ => rfl

/-! ## Stability -/

section Stable

variable [Std.TransCmp c]

theorem ne_gt_trans (a b e : α) (hab : (c a b != .gt) = true) (hbe : (c b e != .gt) = true) :
    (c a e != .gt) = true := by
  simp only [bne_iff_ne, ne_eq, ← Ordering.isLE_iff_ne_gt] at *
  exact Std.TransCmp.isLE_trans hab hbe

theorem ne_gt_total (a b : α) : ((c a b != .gt) || (c b a != .gt)) = true := by
  have hswap : c b a = (c a b).swap := Std.OrientedCmp.eq_swap
  rw [hswap]
  cases c a b <;> rfl

theorem pairwise_ne_gt_sortedBy (xs : List α) :
    (sortedBy c xs).Pairwise fun a b => c a b ≠ .gt :=
  (List.pairwise_mergeSort ne_gt_trans ne_gt_total xs).imp bne_iff_ne.mp

/-- The elements that do not differ from one of them keep their order. -/
theorem filter_sortedBy (a : α) (xs : List α) :
    (sortedBy c xs).filter (c a · == .eq) = xs.filter (c a · == .eq) := by
  have htied : (xs.filter (c a · == .eq)).Pairwise fun b e => (c b e != .gt) = true := by
    refine List.pairwise_of_forall_mem_list fun b hb e he => ?_
    have hab : c a b = .eq := beq_iff_eq.mp (List.mem_filter.mp hb).2
    have hae : c a e = .eq := beq_iff_eq.mp (List.mem_filter.mp he).2
    rw [← Std.TransCmp.congr_left hab, hae]
    rfl
  have hsub : (xs.filter (c a · == .eq)).Sublist (sortedBy c xs) :=
    List.sublist_mergeSort ne_gt_trans ne_gt_total htied List.filter_sublist
  have hfilter := hsub.filter (c a · == .eq)
  rw [List.filter_filter] at hfilter
  simp only [Bool.and_self] at hfilter
  exact (hfilter.eq_of_length ((sortedBy_perm c xs).filter _).length_eq.symm).symm

/-- Sorting keeps an order that the list has among the elements that do not differ. -/
theorem pairwise_sortedBy {xs : List α} (h : xs.Pairwise R) : (sortedBy c xs).Pairwise (LexBy c R) := by
  refine List.pairwise_iff_forall_sublist.mpr fun {a b} hab => ?_
  have hle : c a b ≠ .gt := List.pairwise_iff_forall_sublist.mp (pairwise_ne_gt_sortedBy xs) hab
  cases hc : c a b with
  | lt => exact .inl hc
  | gt => exact absurd hc hle
  | eq =>
    -- both are among those that do not differ from the first, and these were in this order before
    have hpair := hab.filter (c a · == .eq)
    rw [filter_sortedBy] at hpair
    simp only [List.filter_cons, Std.ReflCmp.compare_self, hc, beq_self_eq_true, ↓reduceIte,
      List.filter_nil] at hpair
    exact .inr ⟨hc, List.pairwise_iff_forall_sublist.mp h (hpair.trans List.filter_sublist)⟩

end Stable

/-! ## Several sorts -/

section Several

variable [Std.TransCmp c] [Std.TransCmp d]

theorem LexBy.asymm (hR : ∀ a b, R a b → ¬ R b a) (a b : α) (hab : LexBy c R a b) : ¬ LexBy c R b a := by
  have hswap : c b a = (c a b).swap := Std.OrientedCmp.eq_swap
  unfold LexBy at hab ⊢
  rw [hswap]
  rcases hab with hlt | ⟨heq, h⟩
  · rw [hlt]
    rintro (hba | ⟨hba, -⟩) <;> cases hba
  · rw [heq]
    rintro (hba | ⟨-, hba⟩)
    · cases hba
    · exact hR a b h hba

/-- An order in which no two elements stand both ways leaves one arrangement of a list. -/
theorem eq_of_perm_of_asymm {xs ys : List α} (hR : ∀ a b, R a b → ¬ R b a) (hx : xs.Pairwise R)
    (hy : ys.Pairwise R) (h : xs.Perm ys) : xs = ys :=
  h.eq_of_pairwise (fun a b _ _ hab hba => absurd hba (hR a b hab)) hx hy

/-- A sort by two comparisons is a sort by the second and then by the first. -/
theorem sortedBy_then {xs : List α} (hR : ∀ a b, R a b → ¬ R b a) (h : xs.Pairwise R) :
    sortedBy (compareLex c d) xs = sortedBy c (sortedBy d xs) := by
  have hboth : (sortedBy (compareLex c d) xs).Pairwise (LexBy c (LexBy d R)) :=
    lexBy_then (c := c) (d := d) ▸ pairwise_sortedBy h
  have hone : (sortedBy c (sortedBy d xs)).Pairwise (LexBy c (LexBy d R)) :=
    pairwise_sortedBy (pairwise_sortedBy h)
  refine eq_of_perm_of_asymm (LexBy.asymm (LexBy.asymm hR)) hboth hone ?_
  exact (sortedBy_perm _ xs).trans ((sortedBy_perm _ _).trans (sortedBy_perm _ xs)).symm

end Several

end RecordQuery
