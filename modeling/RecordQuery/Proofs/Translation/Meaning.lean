import RecordQuery.Proofs.Expr.Nulled
import RecordQuery.Proofs.Query.Filter
import RecordQuery.Proofs.Translation.Shape

/-!
# A translated lambda keeps what the lambda accepts

Two evaluators meet here. `Expr.eval` gives an expression a value or none, and `Query.meets` tests the
entries of a query. `Translates.meetsItem_nulled` says that an item is met exactly where its expression
is true with null for the operands without value, by induction on `Translates`. Where all operands have
values this is the expression itself (`Translates.meetsItem_eq`), and `keeps_addLambda` carries it over
to a query that the lambda is added to.

The two differ in three places, which the statements exclude: an operand without a value reads as null
in a condition; `Contains` looks for an item if the field holds a list; and a condition goes by the
declaration of a field, where the expression goes by the record.
-/

namespace RecordQuery

namespace Expr

mutual

/-- The fields of the parameter that an expression reads. -/
def fields : Expr → List String
  | parameter _ => []
  | constant _ => []
  | member target name =>
    match target with
    | parameter _ => [name]
    | target => target.fields
  | convert inner => inner.fields
  | not inner => inner.fields
  | negate inner => inner.fields
  | binary _ left right => left.fields ++ right.fields
  | call target _ args => target.fields ++ listFields args
  | staticCall _ args => listFields args
  | list items => listFields items

/-- The fields of the parameter that expressions read. -/
def listFields : List Expr → List String
  | [] => []
  | e :: es => e.fields ++ listFields es

end

/-- The value operands of the conditions in an expression: the side of a comparison that is not the
field, and the arguments of a method called on a field. -/
def valueOperands : Expr → List Expr
  | binary op left right =>
    if op.isComparison then [left, right].filter (!·.usesParameter)
    else left.valueOperands ++ right.valueOperands
  | call target _ args => if target.usesParameter then args else []
  | not inner => inner.valueOperands
  | convert inner => inner.valueOperands
  | _ => []

/-- The fields that an expression calls `Contains` on. -/
def searchedFields : Expr → List String
  | binary _ left right => left.searchedFields ++ right.searchedFields
  | call target name _ => if name = "Contains" then target.fields else []
  | not inner => inner.searchedFields
  | convert inner => inner.searchedFields
  | _ => []

/-- Where all value operands have values there is nothing to write null for. -/
theorem nulled_eq_self {e : Expr} (h : ∀ o ∈ e.valueOperands, ∃ v, o.evaluate = some v) :
    e.nulled = e := by
  fun_induction nulled e with
  | case1 op left right hop =>
    have hoperand (o : Expr) (ho : o ∈ [left, right]) : o.orNull = o := by
      refine orNull_eq_self fun hp => h o ?_
      simp only [valueOperands, hop, ↓reduceIte]
      exact List.mem_filter.mpr ⟨ho, by rw [hp]; rfl⟩
    rw [hoperand left (by simp), hoperand right (by simp)]
  | case2 op left right hop ihl ihr =>
    simp only [valueOperands, hop, Bool.false_eq_true, ↓reduceIte, List.mem_append] at h
    rw [ihl fun o ho => h o (.inl ho), ihr fun o ho => h o (.inr ho)]
  | case3 target name args ht =>
    have hargs : args.map orNull = args := by
      refine (List.map_congr_left fun o ho => orNull_eq_self fun _ => h o ?_).trans (List.map_id args)
      simp only [valueOperands, ht, ↓reduceIte, ho]
    rw [hargs]
  | case5 inner ih => rw [ih h]
  | case6 inner ih => rw [ih h]
  | _ => rfl

end Expr

/-- Whether a value is a list. -/
def Value.isList : Value → Bool
  | list _ => true
  | _ => false

namespace Translation

variable {p : String}

/-! ## The parts of a condition -/

theorem IsField.mem_fields : ∀ {e : Expr} {f : String}, IsField p e f → f ∈ e.fields
  | .member _ _, f, h => by
    simp only [IsField, Expr.asMember?, Option.some.injEq, Prod.mk.injEq] at h
    obtain ⟨rfl, rfl⟩ := h
    simp [Expr.fields]
  | .convert inner, f, h => by
    rw [Expr.fields]
    exact IsField.mem_fields (e := inner) h

theorem IsField.eval {e : Expr} {f : String} (h : IsField p e f) (r : Record) :
    e.eval (some r) = some (r.value f) :=
  Expr.eval_of_asMember r h

theorem IsField.nulled : ∀ {e : Expr} {f : String}, IsField p e f → e.nulled = e
  | .member _ _, _, _ => rfl
  | .convert inner, _, h => by
    rw [Expr.nulled, IsField.nulled (e := inner) h]

theorem IsField.usesParameter {e : Expr} {f : String} (h : IsField p e f) :
    e.usesParameter = true :=
  Expr.usesParameter_of_asMember h

/-- An operand is read as its value, or as null if it has none. -/
theorem valueAfter_ofExpr (e : Expr) (n : Nat) :
    (Operand.ofExpr e).valueAfter n = e.evaluate.getD .null := by
  unfold Operand.ofExpr
  split <;> rfl

/-- A comparison with the field on the left. -/
theorem meets_comparison {op : BinaryOp} (hop : op.isComparison = true) (a v : Value) :
    op.comparison.meets a v = op.compares a v := by
  cases op <;> simp only [BinaryOp.isComparison, Bool.false_eq_true] at hop <;> rfl

/-- A comparison with the field on the right means the same with its sides changed. -/
theorem meets_comparison_swap {op : BinaryOp} (hop : op.isComparison = true) (a v : Value) :
    op.comparison.swap.meets a v = op.compares v a := by
  have hrelational : op.comparison.isRelational = true := by
    cases op <;> rfl
  rw [Comparison.meets_swap hrelational, meets_comparison hop]

/-- The methods that stand for a comparison always have a truth value, which is that of the
comparison. -/
theorem call?_eq_meets {m : Method} {op : Comparison} (ho : m.comparison? = some op) (a v : Value)
    (hl : m = .text .holds → a.isList = false) : m.call? a [v] = some (.bool (op.meets a v)) := by
  cases m with
  | text test =>
    cases test <;> cases ho <;> cases a <;>
      first
      | rfl
      | (cases v <;> rfl)
      | simp [Value.isList] at hl
  | equals =>
    cases ho
    cases a with
    | null => exact congrArg (some <| Value.bool ·) ((Value.beq_null v).symm.trans (Value.beq_comm ..))
    | _ => rfl
  | _ => cases ho

theorem named?_eq_holds {name : String} :
    Method.named? name = some (.text .holds) ↔ name = "Contains" := by
  unfold Method.named?
  repeat' split
  all_goals simp_all

/-! ## Items -/

/-- What conditions need to mean what their expression says of a record: `Contains` is called on no
list, and no required field holds null. -/
structure Comparable (entity : Option EntityType) (record : Record) (e : Expr) : Prop where
  searched : ∀ f ∈ e.searchedFields, (record.value f).isList = false
  required : ∀ f ∈ e.fields, nullableIn entity f = false → (record.value f).isNull = false

/-- What the two evaluators need to agree on an expression: its operands have values, `Contains` is
called on no list, and no required field holds null. -/
structure Agreeable (entity : Option EntityType) (record : Record) (e : Expr) : Prop where
  operands : ∀ o ∈ e.valueOperands, ∃ v, o.evaluate = some v
  searched : ∀ f ∈ e.searchedFields, (record.value f).isList = false
  required : ∀ f ∈ e.fields, nullableIn entity f = false → (record.value f).isNull = false

section Items

variable {entity : Option EntityType} {record : Record} {e e' : Expr} {op : BinaryOp}

theorem Agreeable.comparable (h : Agreeable entity record e) : Comparable entity record e where
  searched := h.searched
  required := h.required

theorem Comparable.left (h : Comparable entity record (.binary op e e')) :
    Comparable entity record e where
  searched f hf := h.searched f (by simp [Expr.searchedFields, hf])
  required f hf := h.required f (by simp [Expr.fields, hf])

theorem Comparable.right (h : Comparable entity record (.binary op e e')) :
    Comparable entity record e' where
  searched f hf := h.searched f (by simp [Expr.searchedFields, hf])
  required f hf := h.required f (by simp [Expr.fields, hf])

theorem Comparable.of_not (h : Comparable entity record (.not e)) : Comparable entity record e where
  searched := h.searched
  required := h.required

theorem Comparable.of_convert (h : Comparable entity record (.convert e)) :
    Comparable entity record e where
  searched := h.searched
  required := h.required

/-- A condition is on a field of its expression. -/
theorem Translates.field_mem {item : Item Query} (h : Translates p e item) {c : Condition}
    (hc : item = .condition c) : c.field ∈ e.fields := by
  induction h generalizing c with
  | conjunction | disjunction => cases hc
  | notNot _ ih => exact ih hc
  | convert _ ih => exact ih hc
  | @negated _ c _ _ ih =>
    cases hc
    exact ih (c := c) rfl
  | fieldLeft _ hf =>
    cases hc
    exact List.mem_append_left _ hf.mem_fields
  | fieldRight _ hf =>
    cases hc
    exact List.mem_append_right _ hf.mem_fields
  | method _ _ hf =>
    cases hc
    exact List.mem_append_left _ hf.mem_fields
  | membership _ hf =>
    cases hc
    simp [Expr.fields, Expr.listFields, hf.mem_fields]
  | staticMembership _ hf =>
    cases hc
    simp [Expr.fields, Expr.listFields, hf.mem_fields]
  | truth hf =>
    cases hc
    exact hf.mem_fields
  | untruth hf =>
    cases hc
    exact hf.mem_fields

/-- Only comparisons with a complement are negated. -/
theorem Translates.not_ordering {c : Condition} (hn : isNegatable e = true)
    (h : Translates p e (.condition c)) : c.operator.isOrdering = false := by
  cases h with
  | @fieldLeft op =>
    cases op <;> simp only [isNegatable, Bool.false_eq_true] at hn <;> rfl
  | @fieldRight op =>
    cases op <;> simp only [isNegatable, Bool.false_eq_true] at hn <;> rfl
  | @method _ _ _ _ m _ _ ho =>
    cases m with
    | text test => cases test <;> cases ho <;> rfl
    | equals => cases ho; rfl
    | _ => cases ho
  | membership => rfl
  | staticMembership => rfl
  | truth => rfl
  | _ => cases hn

/-- An attached condition means what its comparison says of the record, required fields included. -/
theorem Translates.meetsItem_condition {c : Condition} (ht : Translates p e (.condition c))
    (h : Comparable entity record e) :
    Query.meetsItem entity record (Item.condition c).attached =
      c.operator.meets (record.value c.field) c.value := by
  show Query.meetsItem entity record (.condition c.settled) = _
  rw [Query.meetsItem]
  exact Condition.keeps_settled (h.required _ (ht.field_mem rfl))

/-- A condition on a value operand compares with the value of that operand, or with null. -/
theorem Translates.meetsItem_ofExpr {f : String} {operator : Comparison} {operand : Expr}
    (ht : Translates p e (.condition { field := f, operator, operand := .ofExpr operand }))
    (h : Comparable entity record e) :
    Query.meetsItem entity record
        (Item.condition { field := f, operator, operand := .ofExpr operand }).attached =
      operator.meets (record.value f) (operand.evaluate.getD .null) := by
  rw [ht.meetsItem_condition h]
  show operator.meets (record.value f) ((Operand.ofExpr operand).valueAfter 0) = _
  rw [valueAfter_ofExpr]

/-- A pair of items is met as its connector says. It takes the entity type of the query around it. -/
theorem meetsItem_pair (connector : Connector) (a b : Item Query) :
    Query.meetsItem entity record (Item.tree (pair connector a b)).attached =
      connector.join (Query.meetsItem entity record a.attached)
        (Query.meetsItem entity record b.attached) := by
  show Query.meetsItem entity record (.tree (pair connector a b)) = _
  have he : (pair connector a b).entity.or entity = entity := rfl
  have hne : ((Query.empty.setCopies false).push .and a.attached).entries ≠ [] := nofun
  rw [Query.meetsItem, he, pair, Query.meets_push hne, Query.meets_push_first rfl]

/-- An item is met where its expression is true once it reads null for operands without value. With
these it always has a value. -/
theorem Translates.meetsItem_nulled {item : Item Query} (ht : Translates p e item)
    (h : Comparable entity record e) :
    ∃ v, e.nulled.eval (some record) = some v ∧
      Query.meetsItem entity record item.attached = v.isTrue := by
  induction ht with
  | @fieldLeft op left right f hop hf hv =>
    have hright := Expr.eval_orNull_of_noParameter hv record
    refine ⟨.bool (op.compares (record.value f) (right.evaluate.getD .null)), ?_, ?_⟩
    · simp only [Expr.nulled, hop, ↓reduceIte, Expr.orNull_of_usesParameter hf.usesParameter]
      exact Expr.eval_comparison hop (hf.eval record) hright
    · rw [(Translates.fieldLeft hop hf hv).meetsItem_ofExpr h, meets_comparison hop]
      rfl
  | @fieldRight op left right f hop hf hv =>
    have hleft := Expr.eval_orNull_of_noParameter hv record
    refine ⟨.bool (op.compares (left.evaluate.getD .null) (record.value f)), ?_, ?_⟩
    · simp only [Expr.nulled, hop, ↓reduceIte, Expr.orNull_of_usesParameter hf.usesParameter]
      exact Expr.eval_comparison hop hleft (hf.eval record)
    · rw [(Translates.fieldRight hop hf hv).meetsItem_ofExpr h, meets_comparison_swap hop]
      rfl
  | @method receiver arg name f m operator hm ho hf hv =>
    have harg := Expr.eval_orNull_of_noParameter hv record
    have hl : m = .text .holds → (record.value f).isList = false := by
      rintro rfl
      exact h.searched f (by simp [Expr.searchedFields, named?_eq_holds.mp hm, hf.mem_fields])
    refine ⟨.bool (operator.meets (record.value f) (arg.evaluate.getD .null)), ?_, ?_⟩
    · simp only [Expr.nulled, hf.usesParameter, ↓reduceIte, List.map_cons, List.map_nil]
      rw [Expr.eval_call (hf.eval record) harg, Value.call?, hm]
      exact call?_eq_meets ho _ _ hl
    · rw [(Translates.method hm ho hf hv).meetsItem_ofExpr h]
      rfl
  | @membership collection e name f items hm hf hc hi =>
    have hcollection := Expr.eval_of_evaluate hi record
    refine ⟨.bool ((record.value f).isIn (.list items)), ?_, ?_⟩
    · simp only [Expr.nulled, hc, Bool.false_eq_true, ↓reduceIte]
      rw [Expr.eval_call hcollection (hf.eval record), Value.call?, hm]
      rfl
    · exact (Translates.membership hm hf hc hi).meetsItem_condition h
  | @staticMembership collection e name f items hm hf hc hi =>
    have hcollection := Expr.eval_of_evaluate hi record
    refine ⟨.bool ((record.value f).isIn (.list items)), ?_, ?_⟩
    · rw [Expr.nulled, Expr.eval_staticCall hcollection (hf.eval record)]
      · simp only [Value.staticCall?, hm]
      all_goals nofun
    · exact (Translates.staticMembership hm hf hc hi).meetsItem_condition h
  | @truth e f hf =>
    refine ⟨record.value f, ?_, ?_⟩
    · rw [hf.nulled]
      exact hf.eval record
    · rw [(Translates.truth hf).meetsItem_condition h]
      exact Value.beq_true _
  | @untruth e f hf =>
    refine ⟨.bool !(record.value f).isTrue, ?_, ?_⟩
    · rw [Expr.nulled, hf.nulled, Expr.eval, hf.eval record]
      rfl
    · rw [(Translates.untruth hf).meetsItem_condition h]
      exact congrArg (!·) (Value.beq_true _)
  | @negated e c hn ht ih =>
    obtain ⟨v, hv, hm⟩ := ih h.of_not
    refine ⟨.bool !v.isTrue, ?_, ?_⟩
    · rw [Expr.nulled, Expr.eval, hv]
      rfl
    · rw [(Translates.negated hn ht).meetsItem_condition h]
      rw [ht.meetsItem_condition h.of_not] at hm
      rw [← hm]
      exact Comparison.meets_negate (ht.not_ordering hn) _ _
  | @notNot e item ht ih =>
    obtain ⟨v, hv, hm⟩ := ih h.of_not.of_not
    refine ⟨.bool !!v.isTrue, ?_, ?_⟩
    · rw [Expr.nulled, Expr.nulled, Expr.eval, Expr.eval, hv]
      rfl
    · rw [hm, Bool.not_not]
      rfl
  | convert _ ih =>
    rw [Expr.nulled, Expr.eval]
    exact ih h.of_convert
  | conjunction _ _ ihl ihr =>
    obtain ⟨v, hv, hl⟩ := ihl h.left
    obtain ⟨w, hw, hr⟩ := ihr h.right
    refine ⟨_, Expr.eval_andAlso hv hw, ?_⟩
    rw [meetsItem_pair, hl, hr]
    rfl
  | disjunction _ _ ihl ihr =>
    obtain ⟨v, hv, hl⟩ := ihl h.left
    obtain ⟨w, hw, hr⟩ := ihr h.right
    refine ⟨_, Expr.eval_orElse hv hw, ?_⟩
    rw [meetsItem_pair, hl, hr]
    rfl

/-- An item is met where its expression is true, and its expression has a value there. -/
theorem Translates.meetsItem_eq {item : Item Query} (ht : Translates p e item)
    (h : Agreeable entity record e) :
    ∃ v, e.eval (some record) = some v ∧
      Query.meetsItem entity record item.attached = v.isTrue := by
  rw [← Expr.nulled_eq_self h.operands]
  exact ht.meetsItem_nulled h.comparable

/-- No translated item needs a database. -/
theorem Translates.summary_isComplex {item : Item Query} (ht : Translates p e item) :
    item.attached.summary.isComplex = false := by
  induction ht with
  | conjunction _ _ ihl ihr =>
    exact Query.isComplex_push (Query.isComplex_push rfl ihl .and) ihr .and
  | disjunction _ _ ihl ihr =>
    exact Query.isComplex_push (Query.isComplex_push rfl ihl .and) ihr .or
  | notNot _ ih => exact ih
  | convert _ ih => exact ih
  | _ => rfl

end Items

end Translation

namespace Query

open Translation

/-- Adding a lambda to a query that needs no database narrows or widens what the query keeps by what
the lambda accepts. Alone, the lambda decides. -/
theorem keeps_addLambda {l : Lambda} {entry : Entry Query} {q : Query} {record : Record}
    (hl : l.translate = .ok entry) (hq : q.isComplex = false)
    (hv : ∀ o ∈ l.body.valueOperands, ∃ v, o.evaluate = some v)
    (hs : ∀ f ∈ l.body.searchedFields, (record.value f).isList = false)
    (hr : ∀ e, q.entity = some e → ∀ f ∈ l.body.fields, e.isNullable f = false →
      (record.value f).isNull = false) :
    (∃ q', (addLambda .and l).run q = .ok () q' ∧
      q'.keeps record = (q.keeps record && l.accepts record)) ∧
    (∃ q', (addLambda .or l).run q = .ok () q' ∧
      q'.keeps record =
        if q.entries = [] then l.accepts record else (q.keeps record || l.accepts record)) := by
  obtain ⟨-, ht⟩ := translates_of_translate l.parameter l.body hl
  have hi := ht.summary_isComplex
  have hrun (connector : Connector) :
      (addLambda connector l).run q = .ok () (q.push connector entry.item.attached) := by
    rw [run_addLambda, hl]
    exact run_addItem_of_not_subquery ht.not_subquery connector q
  have hn : ∀ f ∈ l.body.fields, nullableIn q.entity f = false →
      (record.value f).isNull = false := by
    intro f hf hnull
    cases he : q.entity with
    | none => simp [he, nullableIn] at hnull
    | some e =>
      rw [he] at hnull
      exact hr e he f hf hnull
  -- the lambda accepts what its item is met by
  have hitem : meetsItem q.entity record entry.item.attached = l.accepts record := by
    obtain ⟨v, hev, hm⟩ := ht.meetsItem_eq ⟨hv, hs, hn⟩
    rw [hm, Lambda.accepts, Expr.evaluateOn, hev]
  refine ⟨⟨_, hrun .and, ?_⟩, ⟨_, hrun .or, ?_⟩⟩
  · by_cases h : q.entries = []
    · rw [keeps_push_first h hq hi, hitem, keeps_eq hq, meets_of_no_entries h, Bool.true_and]
    · rw [keeps_push h hq hi, hitem]
      rfl
  · split
    · rename_i h
      rw [keeps_push_first h hq hi, hitem]
    · rename_i h
      rw [keeps_push h hq hi, hitem]
      rfl

/-- The users of age 18 and over, all of whom have an age. -/
def adults : Query :=
  (forEntity { name := "User", fields := [{ name := "Age", nullable := false }] }).addLiteral .and
    "Age" .greaterThanOrEqual (.int 18)

/-- `u => 65 > u.Age && !u.Name.Contains("x")` -/
def youngWithoutX : Lambda where
  parameter := "u"
  body := .binary .andAlso
    (.binary .greaterThan (.constant (.int 65)) (.member (.parameter "u") "Age"))
    (.not (.call (.member (.parameter "u") "Name") "Contains" [.constant (.string "x")]))

/-- A user of age 30. -/
def berta : Record :=
  Document.record ⟨[("Age", .int 30), ("Name", .string "Berta")]⟩

theorem keeps_addLambda_adults :
    adults.keeps berta = true ∧ youngWithoutX.accepts berta = true ∧
    (∃ q', (addLambda .and youngWithoutX).run adults = .ok () q' ∧
      q'.keeps berta = (adults.keeps berta && youngWithoutX.accepts berta)) ∧
    (∃ q', (addLambda .or youngWithoutX).run adults = .ok () q' ∧
      q'.keeps berta = (adults.keeps berta || youngWithoutX.accepts berta)) := by
  have hv : ∀ o ∈ youngWithoutX.body.valueOperands, ∃ v, o.evaluate = some v := by
    intro o ho
    obtain rfl | rfl : o = .constant (.int 65) ∨ o = .constant (.string "x") := by
      simpa using (show o ∈ [.constant (.int 65), .constant (.string "x")] from ho)
    · exact ⟨_, rfl⟩
    · exact ⟨_, rfl⟩
  have hs : ∀ f ∈ youngWithoutX.body.searchedFields, (berta.value f).isList = false := by
    intro f hf
    rw [List.mem_singleton.mp hf]
    rfl
  have hr : ∀ e, adults.entity = some e → ∀ f ∈ youngWithoutX.body.fields,
      e.isNullable f = false → (berta.value f).isNull = false := by
    intro e _ f hf _
    obtain rfl | rfl : f = "Age" ∨ f = "Name" := by
      simpa using (show f ∈ ["Age", "Name"] from hf)
    · rfl
    · rfl
  exact ⟨rfl, rfl, @keeps_addLambda youngWithoutX _ adults berta rfl rfl hv hs hr⟩

end Query

end RecordQuery
