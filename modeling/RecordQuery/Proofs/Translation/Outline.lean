import RecordQuery.Proofs.Query.Bookkeeping
import RecordQuery.Proofs.Translation.Faults

/-!
# A translated tree has the shape of its expression

`Expr.outline` is the shape of an expression: what `&&` and `||` connect, down to its conditions, without
conversions and double negations. `Mirrors` says that an item has such a shape, with the connectors of
the expression, one condition for each of its conditions in the same order, and a summary that counts
them. `translate_outline` says that every expression is translated to an item of its shape, or has a
condition with the fault that the translation fails with. It is by induction on the outline, with
`translate_condition` for the conditions and `mirrors_connective` for the groups.
-/

namespace RecordQuery

/-! ## Outlines -/

/-- What an expression is made of. -/
inductive Outline where
  | condition (e : Expr)
  | group (connector : Connector) (left right : Outline)

/-- The conditions of an outline, from left to right. -/
def Outline.conditions : Outline → List Expr
  | condition e => [e]
  | group _ left right => left.conditions ++ right.conditions

namespace Expr

/-- The conditions of an expression and how they are connected, without conversions and double
negations. -/
def outline : Expr → Outline
  | binary .andAlso left right => .group .and left.outline right.outline
  | binary .orElse left right => .group .or left.outline right.outline
  | not (not e) => e.outline
  | convert e => e.outline
  | e => .condition e

mutual

/-- The direct members of the parameter `p` in an expression, from left to right. -/
def fieldsOf (p : String) : Expr → List String
  | parameter _ => []
  | constant _ => []
  | member (parameter q) name => if q = p then [name] else []
  | member target _ => target.fieldsOf p
  | convert inner => inner.fieldsOf p
  | not inner => inner.fieldsOf p
  | negate inner => inner.fieldsOf p
  | binary _ left right => left.fieldsOf p ++ right.fieldsOf p
  | call target _ args => target.fieldsOf p ++ fieldsOfList p args
  | staticCall _ args => fieldsOfList p args
  | list items => fieldsOfList p items

/-- The direct members of the parameter `p` in expressions. -/
def fieldsOfList (p : String) : List Expr → List String
  | [] => []
  | e :: es => e.fieldsOf p ++ fieldsOfList p es

end

mutual

/-- Without the parameter there are no members of it. -/
theorem fieldsOf_of_noParameter (p : String) :
    ∀ {e : Expr}, e.usesParameter = false → e.fieldsOf p = []
  | constant _, _ => by rw [fieldsOf]
  | member target _, h => by
    rw [usesParameter] at h
    rw [fieldsOf, fieldsOf_of_noParameter p h]
    rintro q rfl
    cases h
  | convert inner, h => by
    rw [usesParameter] at h
    rw [fieldsOf, fieldsOf_of_noParameter p h]
  | not inner, h => by
    rw [usesParameter] at h
    rw [fieldsOf, fieldsOf_of_noParameter p h]
  | negate inner, h => by
    rw [usesParameter] at h
    rw [fieldsOf, fieldsOf_of_noParameter p h]
  | binary _ left right, h => by
    rw [usesParameter, Bool.or_eq_false_iff] at h
    rw [fieldsOf, fieldsOf_of_noParameter p h.1, fieldsOf_of_noParameter p h.2, List.append_nil]
  | call target _ args, h => by
    rw [usesParameter, Bool.or_eq_false_iff] at h
    rw [fieldsOf, fieldsOf_of_noParameter p h.1, fieldsOfList_of_noParameter p h.2, List.append_nil]
  | staticCall _ args, h => by
    rw [usesParameter] at h
    rw [fieldsOf, fieldsOfList_of_noParameter p h]
  | list items, h => by
    rw [usesParameter] at h
    rw [fieldsOf, fieldsOfList_of_noParameter p h]

theorem fieldsOfList_of_noParameter (p : String) :
    ∀ {es : List Expr}, anyUsesParameter es = false → fieldsOfList p es = []
  | [], _ => by rw [fieldsOfList]
  | e :: es, h => by
    rw [anyUsesParameter, Bool.or_eq_false_iff] at h
    rw [fieldsOfList, fieldsOf_of_noParameter p h.1, fieldsOfList_of_noParameter p h.2,
      List.append_nil]

end

/-- A field of the parameter is the only member of the parameter in it. -/
theorem fieldsOf_of_asMember {p f : String} :
    ∀ {e : Expr}, e.asMember? = some (parameter p, f) → e.fieldsOf p = [f]
  | member _ _, h => by
    simp only [asMember?, Option.some.injEq, Prod.mk.injEq] at h
    obtain ⟨rfl, rfl⟩ := h
    rw [fieldsOf, if_pos rfl]
  | convert inner, h => by
    rw [fieldsOf, fieldsOf_of_asMember (e := inner) h]

end Expr

namespace Translation

variable {p : String}

/-! ## Conditions -/

/-- An operand that is written down: a literal, or an expression without the parameter. -/
inductive Written : Operand → Prop
  | literal (v : Value) : Written (.literal v)
  | expression {e : Expr} (h : e.usesParameter = false) : Written (.expression e)

theorem written_ofExpr {e : Expr} (h : e.usesParameter = false) : Written (.ofExpr e) := by
  cases e with
  | constant v => exact .literal v
  | _ => exact .expression h

/-- A condition names the one member of the parameter that its expression has. -/
structure Names (p : String) (e : Expr) (c : Condition) : Prop where
  field : e.fieldsOf p = [c.field]
  operand : Written c.operand

theorem Names.settled {e : Expr} {c : Condition} (h : Names p e c) : Names p e c.settled where
  field := by rw [Condition.settled_field, h.field]
  operand := by
    rw [Condition.settled_operand]
    exact h.operand

/-- What translates to a condition has one member of the parameter and one value. -/
theorem Translates.names {e : Expr} {item : Item Query} (h : Translates p e item) :
    ∀ {c : Condition}, item = .condition c → Names p e c := by
  induction h with
  | fieldLeft _ hf hv =>
    rintro _ ⟨⟩
    refine ⟨?_, written_ofExpr hv⟩
    rw [Expr.fieldsOf, Expr.fieldsOf_of_asMember hf, Expr.fieldsOf_of_noParameter p hv]
    rfl
  | fieldRight _ hf hv =>
    rintro _ ⟨⟩
    refine ⟨?_, written_ofExpr hv⟩
    rw [Expr.fieldsOf, Expr.fieldsOf_of_asMember hf, Expr.fieldsOf_of_noParameter p hv]
    rfl
  | method _ _ hf hv =>
    rintro _ ⟨⟩
    refine ⟨?_, written_ofExpr hv⟩
    rw [Expr.fieldsOf, Expr.fieldsOf_of_asMember hf, Expr.fieldsOfList, Expr.fieldsOfList,
      Expr.fieldsOf_of_noParameter p hv]
    rfl
  | membership _ hf hc _ =>
    rintro _ ⟨⟩
    refine ⟨?_, .literal _⟩
    rw [Expr.fieldsOf, Expr.fieldsOf_of_noParameter p hc, Expr.fieldsOfList, Expr.fieldsOfList,
      Expr.fieldsOf_of_asMember hf]
    rfl
  | staticMembership _ hf hc _ =>
    rintro _ ⟨⟩
    refine ⟨?_, .literal _⟩
    rw [Expr.fieldsOf, Expr.fieldsOfList, Expr.fieldsOf_of_noParameter p hc, Expr.fieldsOfList,
      Expr.fieldsOfList, Expr.fieldsOf_of_asMember hf]
    rfl
  | truth hf =>
    rintro _ ⟨⟩
    exact ⟨Expr.fieldsOf_of_asMember hf, .literal _⟩
  | untruth hf =>
    rintro _ ⟨⟩
    exact ⟨by rw [Expr.fieldsOf, Expr.fieldsOf_of_asMember hf], .literal _⟩
  | negated _ _ ih =>
    rintro _ ⟨⟩
    exact ⟨by rw [Expr.fieldsOf, (ih rfl).field], (ih rfl).operand⟩
  | notNot _ ih =>
    intro c hc
    exact ⟨by rw [Expr.fieldsOf, Expr.fieldsOf, (ih hc).field], (ih hc).operand⟩
  | convert _ ih =>
    intro c hc
    exact ⟨by rw [Expr.fieldsOf, (ih hc).field], (ih hc).operand⟩
  | conjunction => nofun
  | disjunction => nofun

/-! ## Trees -/

/-- A summary of conditions that are no subqueries, and of nothing else. -/
structure Summarizes (p : String) (o : Outline) (s : Summary) : Prop where
  count : s.count = o.conditions.length
  mem_fields : ∀ name, name ∈ s.fields ↔ ∃ e ∈ o.conditions, name ∈ e.fieldsOf p
  pairwise_fields : s.fields.Pairwise (· < ·)
  noSubquery : s.hasSubquery = false
  noJoin : s.hasJoin = false
  noRecurve : s.hasRecurve = false

/-- An item with the shape of an outline. -/
inductive Mirrors (p : String) : Outline → Item Query → Prop
  /-- One condition, as its expression is translated by itself or as that is attached. -/
  | condition {e : Expr} {c c' : Condition} (h : translate p e = .ok ⟨.and, .condition c⟩)
      (hc : c' = c ∨ c' = c.settled) (hn : Names p e c') : Mirrors p (.condition e) (.condition c')
  /-- A tree of two items, with the connector of the group between them. -/
  | group {connector : Connector} {left right : Outline} {a b : Item Query} {q : Query}
      (he : q.entries = [⟨.and, a⟩, ⟨connector, b⟩]) (hl : Mirrors p left a)
      (hr : Mirrors p right b) (hs : Summarizes p (.group connector left right) q.summary) :
      Mirrors p (.group connector left right) (.tree q)

theorem Summarizes.condition {e : Expr} {c : Condition} (h : Names p e c) :
    Summarizes p (.condition e) c.summary where
  count := rfl
  mem_fields name := by
    show name ∈ [c.field] ↔ ∃ e' ∈ [e], name ∈ e'.fieldsOf p
    simp only [List.mem_singleton, exists_eq_left, h.field]
  pairwise_fields := List.pairwise_singleton ..
  noSubquery := rfl
  noJoin := rfl
  noRecurve := rfl

theorem Mirrors.summarizes {o : Outline} {item : Item Query} (h : Mirrors p o item) :
    Summarizes p o item.summary := by
  cases h with
  | condition _ _ hn => exact .condition hn
  | group _ _ _ hs => exact hs

/-- Two summaries one after the other. -/
theorem Summarizes.add {left right : Outline} {s t : Summary} (hl : Summarizes p left s)
    (hr : Summarizes p right t) (connector connector' : Connector) :
    Summarizes p (.group connector left right) (s.add connector' t) where
  count := by
    show s.count + t.count = (left.conditions ++ right.conditions).length
    rw [hl.count, hr.count, List.length_append]
  mem_fields name := by
    show name ∈ mergeNames s.fields t.fields ↔
      ∃ e ∈ left.conditions ++ right.conditions, name ∈ e.fieldsOf p
    simp only [mem_mergeNames, hl.mem_fields, hr.mem_fields, List.mem_append, or_and_right,
      exists_or]
  pairwise_fields := pairwise_mergeNames hl.pairwise_fields t.fields
  noSubquery := Bool.or_eq_false_iff.mpr ⟨hl.noSubquery, hr.noSubquery⟩
  noJoin := Bool.or_eq_false_iff.mpr ⟨hl.noJoin, hr.noJoin⟩
  noRecurve := Bool.or_eq_false_iff.mpr ⟨hl.noRecurve, hr.noRecurve⟩

/-- A summary after nothing. -/
theorem Summarizes.first {o : Outline} {s : Summary} (h : Summarizes p o s) :
    Summarizes p o (({} : Summary).add .and s) where
  count := (Nat.zero_add _).trans h.count
  mem_fields name := by
    show name ∈ mergeNames [] s.fields ↔ _
    rw [mem_mergeNames, h.mem_fields]
    simp only [List.not_mem_nil, false_or]
  pairwise_fields := pairwise_mergeNames .nil s.fields
  noSubquery := h.noSubquery
  noJoin := h.noJoin
  noRecurve := h.noRecurve

/-- The group that nests two items, as they are attached. -/
theorem Mirrors.pair {left right : Outline} {a b : Item Query} (connector : Connector)
    (hl : Mirrors p left a.attached) (hr : Mirrors p right b.attached) :
    Mirrors p (.group connector left right) (.tree (pair connector a b)) :=
  .group rfl hl hr (hl.summarizes.first.add hr.summarizes connector _)

theorem Mirrors.not_subquery {o : Outline} {item : Item Query} (h : Mirrors p o item)
    (c : SubqueryCondition Query) : item ≠ .subquery c := by
  cases h <;> nofun

/-! ## The translation -/

/-- The translation of an expression with an outline: an item of this shape, which keeps it when it is
attached, or the fault of one of the conditions. -/
inductive Follows (p : String) (o : Outline) : Result (Entry Query) → Prop
  | item {item : Item Query} (h : Mirrors p o item) (ha : Mirrors p o item.attached) :
      Follows p o (.ok ⟨.and, item⟩)
  | fault {e : Expr} {fault : Malformed} (he : e ∈ o.conditions)
      (h : translate p e = .error (.malformed fault)) : Follows p o (.error (.malformed fault))

/-- What is no group, no conversion and no double negation translates to a condition. -/
theorem follows_condition {e : Expr} (hand : ∀ left right, e ≠ .binary .andAlso left right)
    (hor : ∀ left right, e ≠ .binary .orElse left right) (hnot : ∀ inner, e ≠ .not (.not inner))
    (hconvert : ∀ inner, e ≠ .convert inner) : Follows p (.condition e) (translate p e) := by
  cases h : translate p e with
  | error err =>
    obtain ⟨fault, rfl⟩ := onlyMalformed_translate p e err h
    exact .fault (List.mem_singleton_self e) h
  | ok entry =>
    obtain ⟨connector, item⟩ := entry
    obtain ⟨rfl, ht⟩ := translates_of_translate p e h
    have hitem : ∃ c, item = .condition c := by
      cases ht with
      | notNot => exact absurd rfl (hnot _)
      | convert => exact absurd rfl (hconvert _)
      | conjunction => exact absurd rfl (hand _ _)
      | disjunction => exact absurd rfl (hor _ _)
      | _ => exact ⟨_, rfl⟩
    obtain ⟨c, rfl⟩ := hitem
    have hn := ht.names rfl
    exact .item (.condition h (.inl rfl) hn) (.condition h (.inr rfl) hn.settled)

/-- A group fails where its left part does, then where its right part does, and in no other way. -/
theorem follows_connective {left right : Outline} {x y : Result (Entry Query)}
    (connector : Connector) (hl : Follows p left x) (hr : Follows p right y) :
    Follows p (.group connector left right) (do connective connector (← x) (← y)) := by
  cases hl with
  | fault he h => exact .fault (List.mem_append_left _ he) h
  | @item a hl hla =>
    cases hr with
    | fault he h => exact .fault (List.mem_append_right _ he) h
    | @item b hr hrb =>
      have hpair := Mirrors.pair connector hla hrb
      have heq : connective connector ⟨.and, a⟩ ⟨.and, b⟩ =
          .ok ⟨.and, .tree (pair connector a b)⟩ :=
        connective_eq hl.not_subquery hr.not_subquery
      show Follows p _ (connective connector _ _)
      rw [heq]
      exact .item hpair hpair

theorem follows_translate (p : String) (e : Expr) : Follows p e.outline (translate p e) := by
  fun_induction Expr.outline e with
  | case1 left right ihl ihr => exact follows_connective .and ihl ihr
  | case2 left right ihl ihr => exact follows_connective .or ihl ihr
  | case3 e ih => exact ih
  | case4 e ih => exact ih
  | case5 e hand hor hnot hconvert => exact follows_condition hand hor hnot hconvert

/-- Every expression translates to an item of its shape, connected by `AND`, or has a condition that
is malformed, which is the fault of the whole expression. -/
theorem translate_outline (p : String) (e : Expr) :
    (∃ item, translate p e = .ok ⟨.and, item⟩ ∧ Mirrors p e.outline item) ∨
      ∃ c ∈ e.outline.conditions, ∃ fault, translate p c = .error (.malformed fault) ∧
        translate p e = .error (.malformed fault) := by
  have h := follows_translate p e
  generalize translate p e = r at h ⊢
  cases h with
  | item h => exact .inl ⟨_, rfl, h⟩
  | fault he h => exact .inr ⟨_, he, _, h, rfl⟩

end Translation

end RecordQuery
