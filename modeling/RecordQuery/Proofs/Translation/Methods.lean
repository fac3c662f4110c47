import RecordQuery.Proofs.Translation.Meaning

/-!
# Methods of a field in a filter and in an expression

A method of a field is evaluated in two ways: `Method.call?` goes by the kinds of the field and the
argument, and a query compares the two as `Method.comparison?` says. `keeps_method` says that both
ways accept the same values, negated or not, except for `Contains` on a list: there the method looks
for an item, and the comparison, which is about texts, is never met.
-/

namespace RecordQuery

/-- The methods of a field that stand for a comparison. -/
def fieldMethods : List (String × Comparison) :=
  [("StartsWith", .beginLike), ("EndsWith", .endLike), ("Contains", .like), ("Equals", .equal)]

theorem exists_of_fieldMethods {name : String} {op : Comparison} (h : (name, op) ∈ fieldMethods) :
    ∃ m, Method.named? name = some m ∧ m.comparison? = some op ∧ op.isOrdering = false := by
  simp only [fieldMethods, List.mem_cons, Prod.mk.injEq, List.not_mem_nil, or_false] at h
  obtain ⟨rfl, rfl⟩ | ⟨rfl, rfl⟩ | ⟨rfl, rfl⟩ | ⟨rfl, rfl⟩ := h <;> exact ⟨_, rfl, rfl, rfl⟩

namespace Translation

variable {p name f : String} {receiver arg : Expr} {m : Method} {op : Comparison}

theorem IsField.isMember (h : IsField p receiver f) : isMember receiver = true := by
  unfold IsField at h
  rw [Translation.isMember, h]
  rfl

/-- An expression that does not use the parameter is no field of it. -/
theorem fieldOf_of_noParameter (h : arg.usesParameter = false) :
    fieldOf p arg = fail (.notAField arg p) := by
  unfold fieldOf
  split
  · rename_i q name hm
    rw [Expr.usesParameter_of_asMember hm] at h
    cases h
  · rfl

/-- A method of a field is translated to its comparison. -/
theorem translate_method (hm : Method.named? name = some m) (ho : m.comparison? = some op)
    (hf : IsField p receiver f) (ha : arg.usesParameter = false) :
    translate p (.call receiver name [arg]) = .ok (condition f op (.ofExpr arg)) := by
  simp only [translate, call, hm, hf.isMember, ho]
  exact compared_eq_ok.mpr ⟨f, hf, ha, rfl⟩

/-- What can be negated is translated first and then negated. -/
theorem translate_not {e : Expr} (hn : isNegatable e = true) :
    translate p (.not e) = translate p e >>= negate := by
  rw [translate, if_pos hn]
  · rintro _ rfl
    cases hn
  · rintro _ _ rfl
    cases hn
  · rintro _ rfl
    cases hn

/-- A negated method of a field is translated to the complement of its comparison. -/
theorem translate_not_method (hm : Method.named? name = some m) (ho : m.comparison? = some op)
    (hf : IsField p receiver f) (ha : arg.usesParameter = false) :
    translate p (.not (.call receiver name [arg])) = .ok (condition f op.negate (.ofExpr arg)) := by
  rw [translate_not rfl, translate_method hm ho hf ha]
  rfl

/-- `Contains` finds an item of a list. -/
theorem call?_holds_of_isList {a : Value} (hl : a.isList = true) (v : Value) :
    Method.call? (.text .holds) a [v] = some (.bool (v.isIn a)) := by
  cases a <;> simp only [Value.isList, Bool.false_eq_true] at hl
  rfl

/-- A list is not like anything. -/
theorem like_of_isList {a : Value} (hl : a.isList = true) (v : Value) :
    Comparison.like.meets a v = false := by
  cases a <;> simp only [Value.isList, Bool.false_eq_true] at hl
  rfl

end Translation

namespace Query

open Translation

/-- A query that is made of one translated condition keeps the records that meet it. -/
theorem keeps_condition {l : Lambda} {f : String} {op : Comparison} {operand : Operand}
    (hl : l.translate = .ok (condition f op operand)) (record : Record) :
    ∃ q, (addLambda .and l).run Query.empty = .ok () q ∧
      q.keeps record = op.meets (record.value f) (operand.valueAfter 0) := by
  let c : Condition := { field := f, operator := op, operand }
  refine ⟨Query.empty.push .and (.condition c.settled), ?_, ?_⟩
  · rw [run_addLambda, hl]
    rfl
  · have hnull : nullableIn Query.empty.entity f = false → (record.value f).isNull = false := nofun
    have hmet : (Query.empty.push .and (.condition c.settled)).keeps record =
        meetsItem none record (.condition c.settled) := keeps_push_first rfl rfl rfl .and
    rw [hmet, meetsItem]
    exact Condition.keeps_settled hnull

/-- A method of a field, negated or not, becomes one condition. The condition is met by the values
that the method is true of, and the complement by all others. Only `Contains` on a list is something
else: it finds an item, but the condition is never met. -/
theorem keeps_method {p name f : String} {receiver arg : Expr} {op : Comparison} {w : Value}
    (hm : (name, op) ∈ fieldMethods) (hf : IsField p receiver f) (ha : arg.usesParameter = false)
    (hw : arg.evaluate = some w) (record : Record) :
    Lambda.translate ⟨p, .call receiver name [arg]⟩ = .ok (condition f op (.ofExpr arg)) ∧
    Lambda.translate ⟨p, .not (.call receiver name [arg])⟩ =
      .ok (condition f op.negate (.ofExpr arg)) ∧
    ∃ q q', (addLambda .and ⟨p, .call receiver name [arg]⟩).run Query.empty = .ok () q ∧
      (addLambda .and ⟨p, .not (.call receiver name [arg])⟩).run Query.empty = .ok () q' ∧
      (¬(name = "Contains" ∧ (record.value f).isList = true) →
        (q.keeps record = true ↔ (record.value f).call? name [w] = some (.bool true)) ∧
        (q'.keeps record = true ↔ (record.value f).call? name [w] ≠ some (.bool true))) ∧
      (name = "Contains" ∧ (record.value f).isList = true →
        q.keeps record = false ∧ q'.keeps record = true ∧
        (record.value f).call? name [w] = some (.bool (w.isIn (record.value f)))) := by
  obtain ⟨m, hnamed, ho, hordering⟩ := exists_of_fieldMethods hm
  have htranslate : Lambda.translate ⟨p, .call receiver name [arg]⟩ =
      .ok (condition f op (.ofExpr arg)) := translate_method hnamed ho hf ha
  have hnegated : Lambda.translate ⟨p, .not (.call receiver name [arg])⟩ =
      .ok (condition f op.negate (.ofExpr arg)) := translate_not_method hnamed ho hf ha
  obtain ⟨q, hrun, hq⟩ := keeps_condition htranslate record
  obtain ⟨q', hrun', hq'⟩ := keeps_condition hnegated record
  rw [valueAfter_ofExpr, hw, Option.getD_some] at hq hq'
  rw [Comparison.meets_negate hordering] at hq'
  have hcall : (record.value f).call? name [w] = m.call? (record.value f) [w] := by
    rw [Value.call?, hnamed]
  refine ⟨htranslate, hnegated, q, q', hrun, hrun', fun hn => ?_, ?_⟩
  · have hlist : m = .text .holds → (record.value f).isList = false := by
      rintro rfl
      have hname : name = "Contains" := named?_eq_holds.mp hnamed
      exact Bool.eq_false_iff.mpr fun hl => hn ⟨hname, hl⟩
    have hmeets : (record.value f).call? name [w] = some (.bool (op.meets (record.value f) w)) :=
      hcall.trans (call?_eq_meets ho _ _ hlist)
    rw [hq, hq', hmeets]
    cases op.meets (record.value f) w <;> simp
  · rintro ⟨hname, hl⟩
    have hholds : m = .text .holds := Option.some.inj (hnamed.symm.trans (named?_eq_holds.mpr hname))
    subst hholds
    cases ho
    rw [like_of_isList hl] at hq hq'
    exact ⟨hq, hq', hcall.trans (call?_holds_of_isList hl w)⟩

/-- A record with a text and a list of texts. -/
def tagged : Record :=
  Document.record ⟨[("Name", .string "anna"), ("Tags", .list [.string "a"])]⟩

/-- `x.Name.Contains("nn")` of a record whose name is a text. -/
theorem keeps_method_name :
    ("Contains", Comparison.like) ∈ fieldMethods ∧
    IsField "x" (.member (.parameter "x") "Name") "Name" ∧
    ∃ q q', (addLambda .and ⟨"x", .call (.member (.parameter "x") "Name") "Contains"
        [.constant (.string "nn")]⟩).run Query.empty = .ok () q ∧
      (addLambda .and ⟨"x", .not (.call (.member (.parameter "x") "Name") "Contains"
        [.constant (.string "nn")])⟩).run Query.empty = .ok () q' ∧
      (q.keeps tagged = true ↔
        (tagged.value "Name").call? "Contains" [.string "nn"] = some (.bool true)) ∧
      (q'.keeps tagged = true ↔
        (tagged.value "Name").call? "Contains" [.string "nn"] ≠ some (.bool true)) := by
  have hm : ("Contains", Comparison.like) ∈ fieldMethods := by decide
  have hf : IsField "x" (.member (.parameter "x") "Name") "Name" := rfl
  have ha : (Expr.constant (.string "nn")).usesParameter = false := rfl
  obtain ⟨-, -, q, q', hrun, hrun', hmeets, -⟩ := keeps_method hm hf ha rfl tagged
  obtain ⟨hkeeps, hkeeps'⟩ := hmeets fun ⟨_, hl⟩ => nomatch hl
  exact ⟨hm, hf, q, q', hrun, hrun', hkeeps, hkeeps'⟩

/-- `x.Tags.Contains("a")` is true of a record whose tags are a list with that text, but the query
does not keep the record. -/
theorem not_keeps_method_tags :
    (tagged.value "Tags").call? "Contains" [.string "a"] = some (.bool true) ∧
    ∃ q, (addLambda .and ⟨"x", .call (.member (.parameter "x") "Tags") "Contains"
        [.constant (.string "a")]⟩).run Query.empty = .ok () q ∧ q.keeps tagged = false := by
  exact ⟨rfl, _, rfl, rfl⟩

end Query

end RecordQuery
