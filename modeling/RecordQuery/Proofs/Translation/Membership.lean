import RecordQuery.Proofs.Translation.Methods

/-!
# Membership of a field in a list

That a list holds a field is written as a method of the list, `ids.Contains(x.Id)`, or as a function of
both, `Contains(ids, x.Id)`. The second form always stands for membership. The first is a method of a
field where the list is written as a member, as in `limits.Ids.Contains(x.Id)`, and is then malformed,
because such a list is no field of the parameter. Written in any other way, it stands for membership
too. `translate_contains` says so of the two forms and of their negations.
-/

namespace RecordQuery.Translation

variable {p f : String} {collection e : Expr} {items : List Value}

/-- `Contains` of anything but a member is membership. -/
theorem call_contains_of_not_isMember (hm : isMember collection = false) :
    call p collection "Contains" [e] = membership p collection e := by
  have hnamed : Method.named? "Contains" = some (.text .holds) := rfl
  simp only [call, hnamed, hm, ↓reduceIte]

/-- `Contains` of a member is a method of a field, which a member without the parameter is not. -/
theorem call_contains_of_isMember (hm : isMember collection = true)
    (hc : collection.usesParameter = false) :
    call p collection "Contains" [e] = fail (.notAField collection p) := by
  have hnamed : Method.named? "Contains" = some (.text .holds) := rfl
  have hop : (Method.text .holds).comparison? = some .like := rfl
  simp only [call, hnamed, hm, hop, fieldOf_of_noParameter hc]
  rfl

/-- The function form of membership and its negation stand for `IN` and `NOT IN` with the items of the
list. So does the method form, unless the list is written as a member: then it is malformed, negated or
not. -/
theorem translate_contains (hc : collection.usesParameter = false)
    (hi : collection.evaluate = some (.list items)) (hf : IsField p e f) :
    translate p (.staticCall "Contains" [collection, e]) =
      .ok (condition f .isIn (.literal (.list items))) ∧
    translate p (.not (.staticCall "Contains" [collection, e])) =
      .ok (condition f .notIn (.literal (.list items))) ∧
    (isMember collection = false →
      translate p (.call collection "Contains" [e]) =
        .ok (condition f .isIn (.literal (.list items))) ∧
      translate p (.not (.call collection "Contains" [e])) =
        .ok (condition f .notIn (.literal (.list items)))) ∧
    (isMember collection = true →
      translate p (.call collection "Contains" [e]) =
        .error (.malformed (.notAField collection p)) ∧
      translate p (.not (.call collection "Contains" [e])) =
        .error (.malformed (.notAField collection p))) := by
  have hmembership : membership p collection e = .ok (condition f .isIn (.literal (.list items))) :=
    membership_eq_ok.mpr ⟨f, items, hf, hc, hi, rfl⟩
  have hstatic : translate p (.staticCall "Contains" [collection, e]) =
      .ok (condition f .isIn (.literal (.list items))) := hmembership
  refine ⟨hstatic, ?_, fun hm => ?_, fun hm => ?_⟩
  · rw [translate_not rfl, hstatic]
    rfl
  · have hcall : translate p (.call collection "Contains" [e]) =
        .ok (condition f .isIn (.literal (.list items))) := by
      rw [translate, call_contains_of_not_isMember hm, hmembership]
    refine ⟨hcall, ?_⟩
    rw [translate_not rfl, hcall]
    rfl
  · have hcall : translate p (.call collection "Contains" [e]) =
        fail (.notAField collection p) := by
      rw [translate, call_contains_of_isMember hm hc]
    refine ⟨hcall, ?_⟩
    rw [translate_not rfl, hcall]
    rfl

/-- A list with a computed item, converted. -/
def computedIds : Expr :=
  .convert (.list [.constant (.int 1), .binary .add (.constant (.int 1)) (.constant (.int 1))])

/-- The list under a name of a map. -/
def limitIds : Expr :=
  .member (.constant (.map [("Ids", .list [.int 1, .int 2])])) "Ids"

/-- The identifier of the parameter. -/
def ownId : Expr :=
  .member (.parameter "x") "Id"

theorem translate_contains_computedIds :
    computedIds.usesParameter = false ∧
    computedIds.evaluate = some (.list [.int 1, .int 2]) ∧ IsField "x" ownId "Id" ∧
    isMember computedIds = false ∧
    translate "x" (.call computedIds "Contains" [ownId]) =
      translate "x" (.staticCall "Contains" [computedIds, ownId]) ∧
    translate "x" (.not (.call computedIds "Contains" [ownId])) =
      translate "x" (.not (.staticCall "Contains" [computedIds, ownId])) := by
  have hc : computedIds.usesParameter = false := rfl
  have hi : computedIds.evaluate = some (.list [.int 1, .int 2]) := by rfl
  have hf : IsField "x" ownId "Id" := rfl
  have hm : isMember computedIds = false := rfl
  obtain ⟨hstatic, hnot, hcall, -⟩ := translate_contains hc hi hf
  exact ⟨hc, hi, hf, hm, (hcall hm).1.trans hstatic.symm, (hcall hm).2.trans hnot.symm⟩

/-- `Contains(limits.Ids, x.Id)` is membership, but `limits.Ids.Contains(x.Id)` is malformed. -/
theorem translate_contains_limitIds :
    limitIds.usesParameter = false ∧
    limitIds.evaluate = some (.list [.int 1, .int 2]) ∧ IsField "x" ownId "Id" ∧
    translate "x" (.staticCall "Contains" [limitIds, ownId]) =
      .ok (condition "Id" .isIn (.literal (.list [.int 1, .int 2]))) ∧
    translate "x" (.call limitIds "Contains" [ownId]) =
      .error (.malformed (.notAField limitIds "x")) :=
  ⟨rfl, rfl, rfl, rfl, rfl⟩

end RecordQuery.Translation
