import RecordQuery.Proofs.Except
import RecordQuery.Proofs.Query.Build

/-!
# Which expressions are conditions

`Translates p e item` lists the expressions over the parameter `p` that stand for a condition or a group
of conditions, each with the item that it stands for. `translates_of_translate` says that the
translation yields nothing else, so that what is to be known of translated items is proved by induction
on `Translates`, with one case for each kind of condition.
-/

namespace RecordQuery.Translation

/-- Whether an expression is the field `f` of the parameter `p`, also behind conversions. -/
def IsField (p : String) (e : Expr) (f : String) : Prop :=
  e.asMember? = some (.parameter p, f)

/-- The query that nests two items. -/
def pair (connector : Connector) (left right : Item Query) : Query :=
  ((Query.empty.setCopies false).push .and left.attached).push connector right.attached

/-- An expression over the parameter `p` and the item that it stands for. -/
inductive Translates (p : String) : Expr → Item Query → Prop
  | fieldLeft {op : BinaryOp} {left right : Expr} {f : String} (hop : op.isComparison = true)
      (hf : IsField p left f) (hv : right.usesParameter = false) :
      Translates p (.binary op left right)
        (.condition { field := f, operator := op.comparison, operand := .ofExpr right })
  | fieldRight {op : BinaryOp} {left right : Expr} {f : String} (hop : op.isComparison = true)
      (hf : IsField p right f) (hv : left.usesParameter = false) :
      Translates p (.binary op left right)
        (.condition { field := f, operator := op.comparison.swap, operand := .ofExpr left })
  | method {receiver arg : Expr} {name f : String} {m : Method} {operator : Comparison}
      (hm : Method.named? name = some m) (ho : m.comparison? = some operator)
      (hf : IsField p receiver f) (hv : arg.usesParameter = false) :
      Translates p (.call receiver name [arg])
        (.condition { field := f, operator, operand := .ofExpr arg })
  | membership {collection e : Expr} {name f : String} {items : List Value}
      (hm : Method.named? name = some (.text .holds)) (hf : IsField p e f)
      (hc : collection.usesParameter = false) (hi : collection.evaluate = some (.list items)) :
      Translates p (.call collection name [e])
        (.condition { field := f, operator := .isIn, operand := .literal (.list items) })
  | staticMembership {collection e : Expr} {name f : String} {items : List Value}
      (hm : Method.named? name = some (.text .holds)) (hf : IsField p e f)
      (hc : collection.usesParameter = false) (hi : collection.evaluate = some (.list items)) :
      Translates p (.staticCall name [collection, e])
        (.condition { field := f, operator := .isIn, operand := .literal (.list items) })
  | truth {e : Expr} {f : String} (hf : IsField p e f) :
      Translates p e (.condition { field := f, operator := .equal, operand := .literal (.bool true) })
  | untruth {e : Expr} {f : String} (hf : IsField p e f) :
      Translates p (.not e)
        (.condition { field := f, operator := .notEqual, operand := .literal (.bool true) })
  | negated {e : Expr} {c : Condition} (hn : isNegatable e = true)
      (h : Translates p e (.condition c)) :
      Translates p (.not e) (.condition { c with operator := c.operator.negate })
  | notNot {e : Expr} {item : Item Query} (h : Translates p e item) :
      Translates p (.not (.not e)) item
  | convert {e : Expr} {item : Item Query} (h : Translates p e item) :
      Translates p (.convert e) item
  | conjunction {left right : Expr} {a b : Item Query} (hl : Translates p left a)
      (hr : Translates p right b) :
      Translates p (.binary .andAlso left right) (.tree (pair .and a b))
  | disjunction {left right : Expr} {a b : Item Query} (hl : Translates p left a)
      (hr : Translates p right b) :
      Translates p (.binary .orElse left right) (.tree (pair .or a b))

/-- Nothing translates to a subquery. -/
theorem Translates.not_subquery {p : String} {e : Expr} {item : Item Query}
    (h : Translates p e item) (c : SubqueryCondition Query) : item ≠ .subquery c := by
  induction h with
  | notNot _ ih => exact ih
  | convert _ ih => exact ih
  | _ => nofun

/-! ## The parts of an expression -/

theorem fieldOf_eq_ok {p f : String} {e : Expr} : fieldOf p e = .ok f ↔ IsField p e f := by
  unfold fieldOf IsField
  split
  · rename_i q name h
    rw [h]
    by_cases hq : q = p <;> simp [hq, fail]
  · rename_i hn
    simp only [fail, reduceCtorEq, false_iff]
    exact hn p f

theorem operandOf_eq_ok {p : String} {e : Expr} {operand : Operand} :
    operandOf p e = .ok operand ↔ e.usesParameter = false ∧ operand = .ofExpr e := by
  unfold operandOf
  cases e.usesParameter <;> simp [fail, eq_comm]

theorem collectionOf_eq_ok {p : String} {e : Expr} {operand : Operand} :
    collectionOf p e = .ok operand ↔ e.usesParameter = false ∧
      ∃ items, e.evaluate = some (.list items) ∧ operand = .literal (.list items) := by
  unfold collectionOf
  cases e.usesParameter with
  | true => simp [fail]
  | false =>
    simp only [Bool.false_eq_true, ↓reduceIte, true_and]
    split
    · rename_i items h
      simp [h, eq_comm]
    · rename_i hn
      simp only [fail, reduceCtorEq, false_iff, not_exists, not_and]
      exact fun items h => absurd h (hn items)

/-! ## The kinds of conditions -/

variable {p : String} {entry : Entry Query}

/-- The condition that compares a field with a value, if they are a field and a value. -/
def compared (p : String) (operator : Comparison) (field value : Expr) : Result (Entry Query) := do
  return condition (← fieldOf p field) operator (← operandOf p value)

theorem compared_eq_ok {operator : Comparison} {field value : Expr} :
    compared p operator field value = .ok entry ↔
      ∃ f, IsField p field f ∧ value.usesParameter = false ∧
        entry = condition f operator (.ofExpr value) := by
  constructor
  · intro h
    obtain ⟨f, hf, h⟩ := bind_eq_ok.mp h
    obtain ⟨operand, ho, h⟩ := bind_eq_ok.mp h
    obtain ⟨hv, rfl⟩ := operandOf_eq_ok.mp ho
    cases h
    exact ⟨f, fieldOf_eq_ok.mp hf, hv, rfl⟩
  · rintro ⟨f, hf, hv, rfl⟩
    rw [compared, fieldOf_eq_ok.mpr hf, operandOf_eq_ok.mpr ⟨hv, rfl⟩]
    rfl

theorem comparison_eq (p : String) (op : BinaryOp) (left right : Expr) :
    comparison p op left right =
      match fieldOnLeft? left right with
      | none => fail (.noField left right)
      | some true => compared p op.comparison left right
      | some false => compared p op.comparison.swap right left := rfl

theorem translates_of_comparison {op : BinaryOp} {left right : Expr} (hop : op.isComparison = true)
    (h : comparison p op left right = .ok entry) :
    entry.connector = .and ∧ Translates p (.binary op left right) entry.item := by
  rw [comparison_eq] at h
  split at h
  · cases h
  · obtain ⟨f, hf, hv, rfl⟩ := compared_eq_ok.mp h
    exact ⟨rfl, .fieldLeft hop hf hv⟩
  · obtain ⟨f, hf, hv, rfl⟩ := compared_eq_ok.mp h
    exact ⟨rfl, .fieldRight hop hf hv⟩

theorem membership_eq_ok {collection e : Expr} :
    membership p collection e = .ok entry ↔
      ∃ f items, IsField p e f ∧ collection.usesParameter = false ∧
        collection.evaluate = some (.list items) ∧
        entry = condition f .isIn (.literal (.list items)) := by
  constructor
  · intro h
    obtain ⟨f, hf, h⟩ := bind_eq_ok.mp h
    obtain ⟨operand, ho, h⟩ := bind_eq_ok.mp h
    obtain ⟨hc, items, hi, rfl⟩ := collectionOf_eq_ok.mp ho
    cases h
    exact ⟨f, items, fieldOf_eq_ok.mp hf, hc, hi, rfl⟩
  · rintro ⟨f, items, hf, hc, hi, rfl⟩
    rw [membership, fieldOf_eq_ok.mpr hf, collectionOf_eq_ok.mpr ⟨hc, items, hi, rfl⟩]
    rfl

theorem translates_of_call {receiver : Expr} {name : String} {args : List Expr}
    (h : call p receiver name args = .ok entry) :
    entry.connector = .and ∧ Translates p (.call receiver name args) entry.item := by
  unfold call at h
  split at h
  · rename_i m arg hm
    split at h
    · rename_i operator _ ho
      obtain ⟨f, hf, hv, rfl⟩ := compared_eq_ok.mp h
      exact ⟨rfl, .method hm ho hf hv⟩
    · split at h
      · rename_i hh
        obtain ⟨f, items, hf, hc, hi, rfl⟩ := membership_eq_ok.mp h
        exact ⟨rfl, .membership (hh ▸ hm) hf hc hi⟩
      · cases h
  · cases h

theorem translates_of_staticCall {name : String} {args : List Expr}
    (h : staticCall p name args = .ok entry) :
    entry.connector = .and ∧ Translates p (.staticCall name args) entry.item := by
  unfold staticCall at h
  split at h
  · rename_i collection e hm
    obtain ⟨f, items, hf, hc, hi, rfl⟩ := membership_eq_ok.mp h
    exact ⟨rfl, .staticMembership hm hf hc hi⟩
  · cases h

theorem of_truth {operator : Comparison} {e : Expr} (h : truth p operator e = .ok entry) :
    ∃ f, IsField p e f ∧ entry = condition f operator (.literal (.bool true)) := by
  obtain ⟨f, hf, h⟩ := bind_eq_ok.mp h
  cases h
  exact ⟨f, fieldOf_eq_ok.mp hf, rfl⟩

/-- Two items that are no subqueries can always be nested. -/
theorem connective_eq {connector : Connector} {left right : Entry Query}
    (hl : ∀ c, left.item ≠ .subquery c) (hr : ∀ c, right.item ≠ .subquery c) :
    connective connector left right = .ok ⟨.and, .tree (pair connector left.item right.item)⟩ := by
  simp only [connective, EStateM.run_bind, Query.run_addItem_of_not_subquery hl,
    Query.run_addItem_of_not_subquery hr]
  rfl

/-! ## The translation -/

/-- A translated entry is one of those that `Translates` lists. -/
theorem translates_of_translate (p : String) (e : Expr) :
    ∀ {entry : Entry Query}, translate p e = .ok entry →
      entry.connector = .and ∧ Translates p e entry.item := by
  fun_induction translate p e with
  | case1 left right ihl ihr =>
    intro entry h
    obtain ⟨a, ha, h⟩ := bind_eq_ok.mp h
    obtain ⟨b, hb, h⟩ := bind_eq_ok.mp h
    obtain ⟨-, hl⟩ := ihl ha
    obtain ⟨-, hr⟩ := ihr hb
    rw [connective_eq hl.not_subquery hr.not_subquery] at h
    cases h
    exact ⟨rfl, .conjunction hl hr⟩
  | case2 left right ihl ihr =>
    intro entry h
    obtain ⟨a, ha, h⟩ := bind_eq_ok.mp h
    obtain ⟨b, hb, h⟩ := bind_eq_ok.mp h
    obtain ⟨-, hl⟩ := ihl ha
    obtain ⟨-, hr⟩ := ihr hb
    rw [connective_eq hl.not_subquery hr.not_subquery] at h
    cases h
    exact ⟨rfl, .disjunction hl hr⟩
  | case3 op left right _ _ hop => exact translates_of_comparison hop
  | case4 =>
    intro entry h
    cases h
  | case5 => exact translates_of_call
  | case6 => exact translates_of_staticCall
  | case7 e ih =>
    intro entry h
    exact ⟨(ih h).1, .notNot (ih h).2⟩
  | case8 target name =>
    intro entry h
    obtain ⟨f, hf, rfl⟩ := of_truth h
    exact ⟨rfl, .untruth hf⟩
  | case9 e =>
    intro entry h
    obtain ⟨f, hf, rfl⟩ := of_truth h
    exact ⟨rfl, .untruth hf⟩
  | case10 e _ _ _ hn ih =>
    intro entry h
    obtain ⟨inner, hi, h⟩ := bind_eq_ok.mp h
    obtain ⟨hc, ht⟩ := ih hi
    unfold negate at h
    split at h
    · rename_i c hitem
      cases h
      exact ⟨hc, .negated hn (hitem ▸ ht)⟩
    · rename_i c hitem
      exact absurd hitem (ht.not_subquery c)
    · cases h
  | case11 =>
    intro entry h
    cases h
  | case12 e ih =>
    intro entry h
    exact ⟨(ih h).1, .convert (ih h).2⟩
  | case13 target name =>
    intro entry h
    obtain ⟨f, hf, rfl⟩ := of_truth h
    exact ⟨rfl, .truth hf⟩
  | case14 =>
    intro entry h
    cases h

end RecordQuery.Translation
