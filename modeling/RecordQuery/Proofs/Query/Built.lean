import RecordQuery.Proofs.Query.Build
import RecordQuery.Proofs.Translation.Shape

/-!
# The steps that queries are built by

`Built` lists the few changes that every operation on a query comes down to, with what the operation
checks before each of them. A property of all queries is proved by induction on `Built`, with one case
for each kind of change. The queries in a built query are built too (`Built.part`), and so is its light
clone (`Built.lightClone`), which takes the same steps without those that append conditions.
-/

namespace RecordQuery

/-! ## Settings -/

/-- The changes of settings that concern no other part of a query. -/
inductive Adjusts : Settings → Settings → Prop
  | sort {s : Settings} {field : String} (hf : Text.allBlank field = false) (descending : Bool)
      (converter : Option Converter) :
      Adjusts s { s with sorts := s.sorts ++ [{ field, descending, converter }] }
  | clearSort (s : Settings) : Adjusts s { s with sorts := [] }
  | queryFields (s : Settings) (fields : List String) :
      Adjusts s { s with queryFields := addNames s.queryFields fields }
  | notQueryFields (s : Settings) (fields : List String) :
      Adjusts s { s with notQueryFields := addNames s.notQueryFields fields }
  | clearQueryFields (s : Settings) : Adjusts s { s with queryFields := [], notQueryFields := [] }
  | select {s : Settings} (hs : s.queryFields = []) (field : String) :
      Adjusts s { s with queryFields := [field] }
  | paging (s : Settings) (page pageSize : Nat) :
      Adjusts s { s with paging := some (.make page pageSize) }
  | clearPaging (s : Settings) : Adjusts s { s with paging := none }
  | text (s : Settings) (text : QueryText) : Adjusts s { s with text := some text }
  | copies (s : Settings) (copies : Bool) : Adjusts s { s with copies }
  | obsolete (s : Settings) (obsolete : Bool) : Adjusts s { s with obsolete }
  | entity (s : Settings) (e : EntityType) : Adjusts s { s with entity := some e }
  | token (s : Settings) (t : CancellationToken) : Adjusts s { s with token := some t }
  | globalApplied (s : Settings) : Adjusts s { s with globalApplied := true }

namespace Adjusts

variable {s t : Settings}

theorem recurve_eq (h : Adjusts s t) : t.recurve = s.recurve := by
  cases h <;> rfl

/-- The mark that the global conditions are merged is independent of the other settings. -/
theorem unmarked (h : Adjusts s t) :
    Adjusts { s with globalApplied := false } { t with globalApplied := false } ∨
      { t with globalApplied := false } = { s with globalApplied := false } := by
  cases h with
  | globalApplied => exact .inr rfl
  | sort hf descending converter => exact .inl (.sort hf descending converter)
  | clearSort => exact .inl (.clearSort _)
  | queryFields fields => exact .inl (.queryFields _ fields)
  | notQueryFields fields => exact .inl (.notQueryFields _ fields)
  | clearQueryFields => exact .inl (.clearQueryFields _)
  | select hs field => exact .inl (.select (s := { s with globalApplied := false }) hs field)
  | paging page pageSize => exact .inl (.paging _ page pageSize)
  | clearPaging => exact .inl (.clearPaging _)
  | text text => exact .inl (.text _ text)
  | copies copies => exact .inl (.copies _ copies)
  | obsolete obsolete => exact .inl (.obsolete _ obsolete)
  | entity e => exact .inl (.entity _ e)
  | token t => exact .inl (.token _ t)

end Adjusts

/-! ## Queries -/

/-- The queries in an item. -/
def Item.queries : Item Query → List Query
  | .condition _ => []
  | .subquery c => [c.query]
  | .tree q => [q]

namespace Query

/-- The queries directly in a query: in its conditions, joins and combinations. -/
def parts (q : Query) : List Query :=
  q.entries.flatMap (·.item.queries) ++ q.joins.toList.flatMap (·.queries) ++
    q.combines.map (·.query)

/-- A query that is built by the steps that the operations take. -/
inductive Built : Query → Prop
  | empty : Built .empty
  | condition {q : Query} (h : Built q) (connector : Connector) (c : Condition) :
      Built (q.push connector (.condition c.settled))
  | tree {q t : Query} (h : Built q) (ht : Built t) (connector : Connector) :
      Built (q.push connector (.tree t))
  | subquery {q : Query} {c : SubqueryCondition Query} (h : Built q) (hc : Built c.query)
      (he : q.entity ≠ none) (connector : Connector) :
      Built (q.push connector (.subquery { c with query := c.query.selecting c.field }))
  | join {q target : Query} {filter : Option Query} (h : Built q) (ht : Built target)
      (hf : ∀ f ∈ filter, Built f) (he : target.entity ≠ none) (hm : q.settings.lastJoin ≠ maxJoins)
      (kind : JoinKind) (operator : JoinOperator) (fields : List JoinField) :
      Built (q.withJoin kind operator fields target filter)
  | combine {q other : Query} (h : Built q) (ho : Built other) (kind : CombineKind) :
      Built { q with combines := q.combines ++ [⟨kind, other⟩] }
  | recurve {q : Query} {key relationKey : String} {direction : Direction} {recurve : Recurve}
      (h : Built q) (hr : Recurve.make key relationKey direction = .ok recurve) :
      Built (q.withRecurve recurve)
  | adjust {q : Query} {s : Settings} (h : Built q) (hs : Adjusts q.settings s) :
      Built { q with settings := s }

namespace Built

variable {q : Query}

/-! ## Queries in queries -/

/-- A query that gets a field to select is still built. -/
theorem selecting (h : Built q) (field : String) : Built (q.selecting field) := by
  unfold Query.selecting
  split
  · rename_i hf
    exact h.adjust (.select (List.isEmpty_iff.mp hf) field)
  · exact h

/-- A query with one more item has the queries of the item as its only new parts. -/
theorem mem_parts_push {q p : Query} {connector : Connector} {item : Item Query}
    (hp : p ∈ (q.push connector item).parts) : p ∈ q.parts ∨ p ∈ item.queries := by
  simp only [parts, push, List.flatMap_append, List.flatMap_singleton, List.mem_append] at hp ⊢
  rcases hp with ((hp | hp) | hp) | hp
  · exact .inl (.inl (.inl hp))
  · exact .inr hp
  · exact .inl (.inl (.inr hp))
  · exact .inl (.inr hp)

/-- The queries in a built query are built. -/
theorem part {p : Query} (h : Built q) (hp : p ∈ q.parts) : Built p := by
  induction h with
  | empty => cases hp
  | condition _ _ _ ih =>
    rcases mem_parts_push hp with hp | hp
    · exact ih hp
    · cases hp
  | tree _ ht _ ih =>
    rcases mem_parts_push hp with hp | hp
    · exact ih hp
    · rw [List.mem_singleton.mp hp]
      exact ht
  | @subquery _ c _ hc _ _ ih =>
    rcases mem_parts_push hp with hp | hp
    · exact ih hp
    · rw [List.mem_singleton.mp hp]
      exact hc.selecting c.field
  | join _ ht hf _ _ _ _ _ ih =>
    simp only [parts, withJoin, Array.toList_push, List.flatMap_append, List.flatMap_singleton,
      Join.queries, List.mem_append, List.mem_cons, Option.mem_toList] at hp
    rcases hp with (hp | hp | rfl | hp) | hp
    · exact ih (List.mem_append_left _ (List.mem_append_left _ hp))
    · exact ih (List.mem_append_left _ (List.mem_append_right _ hp))
    · exact ht
    · exact hf _ hp
    · exact ih (List.mem_append_right _ hp)
  | combine _ ho _ ih =>
    simp only [parts, List.map_append, List.map_cons, List.map_nil, ← List.append_assoc] at hp
    rcases List.mem_append.mp hp with hp | hp
    · exact ih hp
    · rw [List.mem_singleton.mp hp]
      exact ho
  | recurve _ _ ih => exact ih hp
  | adjust _ _ ih => exact ih hp

/-! ## Conditions -/

theorem addLiteral (h : Built q) (connector : Connector) (field : String) (operator : Comparison)
    (v : Value) (converter : Option Converter) :
    Built (q.addLiteral connector field operator v converter) := by
  rw [addLiteral_eq]
  split
  · exact h
  · exact h.condition connector _

theorem group (connector : Connector) (operator : Comparison) (v : Value)
    (converter : Option Converter) (fields : List String) :
    Built (group connector operator v converter fields) :=
  List.foldlRecOn fields _ .empty fun _ h field _ => h.addLiteral connector field operator v converter

/-- An item that is no subquery can be appended if its query is built. -/
theorem attached {item : Item Query} (h : Built q) (hs : ∀ c, item ≠ .subquery c)
    (ht : ∀ t, item = .tree t → Built t) (connector : Connector) :
    Built (q.push connector item.attached) := by
  cases item with
  | condition c => exact h.condition connector c
  | subquery c => exact absurd rfl (hs c)
  | tree t => exact h.tree (ht t rfl) connector

open Translation in
theorem pair {a b : Item Query} (ha : ∀ c, a ≠ .subquery c) (hb : ∀ c, b ≠ .subquery c)
    (hat : ∀ t, a = .tree t → Built t) (hbt : ∀ t, b = .tree t → Built t) (connector : Connector) :
    Built (pair connector a b) := by
  have h : Built (Query.empty.setCopies false) := Built.empty.adjust (.copies _ false)
  exact (h.attached ha hat .and).attached hb hbt connector

open Translation in
/-- The groups that lambdas are translated to are built. -/
theorem of_translates {p : String} {e : Expr} {item : Item Query} (h : Translates p e item) :
    ∀ t, item = .tree t → Built t := by
  induction h with
  | conjunction hl hr ihl ihr =>
    rintro t ⟨⟩
    exact pair hl.not_subquery hr.not_subquery ihl ihr .and
  | disjunction hl hr ihl ihr =>
    rintro t ⟨⟩
    exact pair hl.not_subquery hr.not_subquery ihl ihr .or
  | notNot _ ih => exact ih
  | convert _ ih => exact ih
  | _ => nofun

end Built

/-! ## Light clones -/

section LightClone

variable (q : Query)

theorem lightClone_empty : empty.lightClone = empty := by
  simp [lightClone, cloneJoins_eq, cloneCombines_eq, empty]

theorem lightClone_push (connector : Connector) (item : Item Query) :
    (q.push connector item).lightClone = q.lightClone := rfl

/-- Joining and dropping the conditions can change places. -/
theorem lightClone_withJoin (kind : JoinKind) (operator : JoinOperator) (fields : List JoinField)
    (target : Query) (filter : Option Query) :
    (q.withJoin kind operator fields target filter).lightClone =
      q.lightClone.withJoin kind operator fields target filter := by
  simp only [lightClone, withJoin, cloneJoins_eq, cloneCombines_eq, Array.any_push, Bool.or_assoc,
    Array.isEmpty_push, Bool.not_false]

theorem lightClone_combine (c : Combine Query) :
    lightClone { q with combines := q.combines ++ [c] } =
      { q.lightClone with combines := q.lightClone.combines ++ [c] } := by
  simp only [lightClone, cloneCombines_eq]

theorem lightClone_withRecurve (recurve : Recurve) :
    (q.withRecurve recurve).lightClone = q.lightClone.withRecurve recurve := by
  simp only [lightClone, withRecurve, Option.isSome_some, Bool.true_or]

theorem lightClone_settings {s : Settings} (h : s.recurve = q.settings.recurve) :
    lightClone { q with settings := s } =
      { q.lightClone with settings := { s with globalApplied := false } } := by
  simp only [lightClone, h]

end LightClone

/-- A light clone takes the steps of the query that append no conditions. -/
theorem Built.lightClone {q : Query} (h : Built q) : Built q.lightClone := by
  induction h with
  | empty =>
    rw [lightClone_empty]
    exact .empty
  | condition _ _ _ ih =>
    rw [lightClone_push]
    exact ih
  | tree _ _ _ ih =>
    rw [lightClone_push]
    exact ih
  | subquery _ _ _ _ ih =>
    rw [lightClone_push]
    exact ih
  | @join q _ _ _ ht hf he hm kind operator fields ih =>
    rw [lightClone_withJoin]
    exact ih.join ht hf he hm kind operator fields
  | @combine q _ _ ho kind ih =>
    rw [lightClone_combine]
    exact ih.combine ho kind
  | @recurve q _ _ _ _ _ hr ih =>
    rw [lightClone_withRecurve]
    exact ih.recurve hr
  | @adjust q s _ hs ih =>
    rw [lightClone_settings q hs.recurve_eq]
    rcases hs.unmarked with hs | hs
    · exact ih.adjust hs
    · rw [hs]
      exact ih

end Query

end RecordQuery
