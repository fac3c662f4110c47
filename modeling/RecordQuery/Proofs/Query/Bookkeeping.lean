import Mathlib.Data.List.DropRight
import RecordQuery.Proofs.Query.Filter
import RecordQuery.Proofs.Query.Reachable

/-!
# The summary is what the entries say

A query counts its conditions, collects their fields and remembers the equalities that are certain as
entries are added. `Query.criterionFields` and `Query.certainEqualities` read the same off the entries,
through nested queries at every depth. `Query.Bookkept` says that the summary agrees with them; a step
that appends an entry keeps it so (`Bookkept.push`), and the other steps touch neither side.
-/

namespace RecordQuery

/-! ## Names in order -/

theorem mem_insertName {name n : String} {names : List String} :
    n ∈ insertName name names ↔ n = name ∨ n ∈ names := by
  induction names with
  | nil => simp only [insertName, List.mem_cons]
  | cons m rest ih =>
    unfold insertName
    split
    · rw [List.mem_cons]
    · split
      · rename_i heq
        rw [heq, List.mem_cons, or_self_left]
      · rw [List.mem_cons, ih, List.mem_cons, or_left_comm]

theorem mem_mergeNames {n : String} {names more : List String} :
    n ∈ mergeNames names more ↔ n ∈ names ∨ n ∈ more := by
  unfold mergeNames
  induction more generalizing names with
  | nil => simp only [List.foldl_nil, List.not_mem_nil, or_false]
  | cons m rest ih => rw [List.foldl_cons, ih, mem_insertName, List.mem_cons, or_assoc, or_left_comm]

/-- Names go where things under them go. -/
theorem map_insert {α : Type} (name : String) (x : α) (fields : Fields α) :
    (Fields.insert name x fields).map (·.1) = insertName name (fields.map (·.1)) := by
  induction fields with
  | nil => rfl
  | cons p rest ih =>
    rw [List.map_cons, Fields.insert, insertName]
    split
    · rfl
    · split
      · rename_i heq
        rw [List.map_cons, heq]
      · rw [List.map_cons, ih]

/-- A name is put where the order stays strict, so that none is there twice. -/
theorem pairwise_insertName {names : List String} (name : String) (h : names.Pairwise (· < ·)) :
    (insertName name names).Pairwise (· < ·) := by
  have hordered : Fields.Ordered (names.map (·, ())) := List.pairwise_map.mpr h
  have hnames : (names.map (·, ())).map (·.1) = names := by
    rw [List.map_map]
    exact List.map_id names
  rw [← hnames, ← map_insert name (), List.pairwise_map]
  exact hordered.insert

theorem pairwise_mergeNames {names : List String} (h : names.Pairwise (· < ·))
    (more : List String) : (mergeNames names more).Pairwise (· < ·) :=
  List.foldlRecOn more _ h fun _ hacc name _ => pairwise_insertName name hacc

/-! ## What comes after the last `OR` -/

section AfterLastOr

variable {α : Type}

/-- The elements after the last one that is connected by `OR`, or all of them if there is none. The
connector of the first means nothing. -/
def afterLastOr : List (Connector × α) → List (Connector × α)
  | [] => []
  | x :: rest =>
    if rest.any (·.1 = .or) then rest.rtakeWhile (·.1 ≠ .or) else x :: rest

/-- A later `OR` leaves nothing before it or at it. -/
theorem afterLastOr_append_or {xs : List (Connector × α)} (h : xs ≠ []) (y : α) :
    afterLastOr (xs ++ [(.or, y)]) = [] := by
  obtain ⟨x, rest, rfl⟩ := List.exists_cons_of_ne_nil h
  rw [List.cons_append, afterLastOr, if_pos (by simp), List.rtakeWhile_concat_neg]
  simp

/-- An `AND` comes after whatever `OR` was the last. -/
theorem afterLastOr_append_and (xs : List (Connector × α)) (y : α) :
    afterLastOr (xs ++ [(.and, y)]) = afterLastOr xs ++ [(.and, y)] := by
  cases xs with
  | nil => rfl
  | cons x rest =>
    have hany : (rest ++ [(Connector.and, y)]).any (·.1 = .or) = rest.any (·.1 = .or) := by simp
    rw [List.cons_append, afterLastOr, afterLastOr, hany]
    split
    · exact List.rtakeWhile_concat_pos _ _ _ (by simp)
    · rfl

end AfterLastOr

namespace Query

/-! ## Reading the entries -/

mutual

/-- The field of each condition and subquery of the query and of its nested queries. -/
def criterionFields : Query → List String
  | ⟨entries, _, _, _, _⟩ => criterionFieldsOfEntries entries

/-- The field of each condition and subquery of entries. -/
def criterionFieldsOfEntries : List (Entry Query) → List String
  | [] => []
  | ⟨_, item⟩ :: rest => criterionFieldsOfItem item ++ criterionFieldsOfEntries rest

/-- The field of each condition and subquery of an item. -/
def criterionFieldsOfItem : Item Query → List String
  | .condition c => [c.field]
  | .subquery c => [c.field]
  | .tree q => criterionFields q

end

mutual

/-- The conditions of equality in the entries after the last `OR`, with those of nested queries that
are certain there. -/
def certainEqualities : Query → List Condition
  | ⟨entries, _, _, _, _⟩ => (afterLastOr (equalitiesOfEntries entries)).flatMap (·.2)

/-- The equalities that are certain in each of the entries, with its connector. -/
def equalitiesOfEntries : List (Entry Query) → List (Connector × List Condition)
  | [] => []
  | ⟨connector, item⟩ :: rest => (connector, equalitiesOfItem item) :: equalitiesOfEntries rest

/-- The equalities that are certain in an item. -/
def equalitiesOfItem : Item Query → List Condition
  | .condition c => if c.operator = .equal then [c] else []
  | .subquery _ => []
  | .tree q => certainEqualities q

end

theorem criterionFieldsOfEntries_append (entries more : List (Entry Query)) :
    criterionFieldsOfEntries (entries ++ more) =
      criterionFieldsOfEntries entries ++ criterionFieldsOfEntries more := by
  induction entries with
  | nil => rfl
  | cons e rest ih =>
    rw [List.cons_append, criterionFieldsOfEntries, ih, criterionFieldsOfEntries, List.append_assoc]

theorem equalitiesOfEntries_append (entries more : List (Entry Query)) :
    equalitiesOfEntries (entries ++ more) =
      equalitiesOfEntries entries ++ equalitiesOfEntries more := by
  induction entries with
  | nil => rfl
  | cons e rest ih =>
    rw [List.cons_append, equalitiesOfEntries, ih, equalitiesOfEntries, List.cons_append]

variable {q : Query}

theorem criterionFields_eq (q : Query) : q.criterionFields = criterionFieldsOfEntries q.entries := by
  cases q
  rw [criterionFields]

theorem certainEqualities_eq (q : Query) :
    q.certainEqualities = (afterLastOr (equalitiesOfEntries q.entries)).flatMap (·.2) := by
  cases q
  rw [certainEqualities]

theorem criterionFields_push (q : Query) (connector : Connector) (item : Item Query) :
    (q.push connector item).criterionFields = q.criterionFields ++ criterionFieldsOfItem item := by
  rw [criterionFields_eq, criterionFields_eq, push, criterionFieldsOfEntries_append,
    criterionFieldsOfEntries, criterionFieldsOfEntries, List.append_nil]

/-- An appended item adds its equalities, unless its `OR` makes nothing certain. -/
theorem certainEqualities_push (q : Query) (connector : Connector) (item : Item Query) :
    (q.push connector item).certainEqualities =
      match q.effective connector with
      | .and => q.certainEqualities ++ equalitiesOfItem item
      | .or => [] := by
  have happend : equalitiesOfEntries (q.push connector item).entries =
      equalitiesOfEntries q.entries ++ [(connector, equalitiesOfItem item)] := by
    rw [push, equalitiesOfEntries_append, equalitiesOfEntries, equalitiesOfEntries]
  rw [certainEqualities_eq, certainEqualities_eq, happend, effective]
  cases hentries : q.entries with
  | nil => simp [equalitiesOfEntries, afterLastOr]
  | cons e rest =>
    have hne : equalitiesOfEntries (e :: rest) ≠ [] := by
      rw [equalitiesOfEntries]
      exact List.cons_ne_nil _ _
    rw [List.isEmpty_cons, if_neg Bool.false_ne_true]
    cases connector with
    | and => simp only [afterLastOr_append_and, List.flatMap_append, List.flatMap_singleton]
    | or => simp only [afterLastOr_append_or hne, List.flatMap_nil]

/-! ## The summary -/

/-- The summary counts, names and remembers what is in the entries. -/
structure Bookkept (q : Query) : Prop where
  count : q.summary.count = q.criterionFields.length
  mem_fields : ∀ name, name ∈ q.summary.fields ↔ name ∈ q.criterionFields
  pairwise_fields : q.summary.fields.Pairwise (· < ·)
  equalities : q.summary.equalities = q.certainEqualities

/-- The summary of an item agrees with what the item holds. -/
structure ItemBookkept (item : Item Query) : Prop where
  count : item.summary.count = (criterionFieldsOfItem item).length
  mem_fields : ∀ name, name ∈ item.summary.fields ↔ name ∈ criterionFieldsOfItem item
  equalities : item.summary.equalities = equalitiesOfItem item

theorem ItemBookkept.condition (c : Condition) : ItemBookkept (.condition c) :=
  ⟨rfl, fun _ => Iff.rfl, rfl⟩

theorem ItemBookkept.subquery (c : SubqueryCondition Query) : ItemBookkept (.subquery c) :=
  ⟨rfl, fun _ => Iff.rfl, rfl⟩

theorem ItemBookkept.tree (h : Bookkept q) : ItemBookkept (.tree q) :=
  ⟨h.count, h.mem_fields, h.equalities⟩

/-- Appending an item adds what the item holds to both sides. -/
theorem Bookkept.push {item : Item Query} (h : q.Bookkept) (hi : ItemBookkept item)
    (connector : Connector) : (q.push connector item).Bookkept where
  count := by
    have hadd : (q.push connector item).summary.count = q.summary.count + item.summary.count := rfl
    rw [hadd, h.count, hi.count, criterionFields_push, List.length_append]
  mem_fields name := by
    have hadd : (q.push connector item).summary.fields =
        mergeNames q.summary.fields item.summary.fields := rfl
    rw [hadd, mem_mergeNames, h.mem_fields, hi.mem_fields, criterionFields_push, List.mem_append]
  pairwise_fields := pairwise_mergeNames h.pairwise_fields item.summary.fields
  equalities := by
    have hadd : (q.push connector item).summary.equalities =
        match q.effective connector with
        | .and => q.summary.equalities ++ item.summary.equalities
        | .or => [] := rfl
    rw [hadd, h.equalities, hi.equalities, certainEqualities_push]

/-- Only entries and what is known of them matter. -/
theorem Bookkept.congr {q' : Query} (h : q.Bookkept) (he : q'.entries = q.entries)
    (hc : q'.summary.count = q.summary.count) (hf : q'.summary.fields = q.summary.fields)
    (heq : q'.summary.equalities = q.summary.equalities) : q'.Bookkept := by
  have hfields : q'.criterionFields = q.criterionFields := by
    rw [criterionFields_eq, he, ← criterionFields_eq]
  have hequalities : q'.certainEqualities = q.certainEqualities := by
    rw [certainEqualities_eq, he, ← certainEqualities_eq]
  refine ⟨?_, fun name => ?_, ?_, ?_⟩
  · rw [hc, h.count, hfields]
  · rw [hf, h.mem_fields, hfields]
  · rw [hf]
    exact h.pairwise_fields
  · rw [heq, h.equalities, hequalities]

/-- Every step keeps the summary what the entries say. -/
theorem Built.bookkept (h : Built q) : q.Bookkept := by
  induction h with
  | empty => exact ⟨rfl, fun _ => Iff.rfl, .nil, rfl⟩
  | condition _ connector c ih => exact ih.push (.condition c.settled) connector
  | tree _ _ connector ih iht => exact ih.push (.tree iht) connector
  | subquery _ _ _ connector ih => exact ih.push (.subquery _) connector
  | join _ _ _ _ _ _ _ _ ih => exact ih.congr rfl rfl rfl rfl
  | combine _ _ _ ih => exact ih.congr rfl rfl rfl rfl
  | recurve _ _ ih => exact ih.congr rfl rfl rfl rfl
  | adjust _ _ ih => exact ih.congr rfl rfl rfl rfl

end Query

/-- The summary of every query that can be had is what its entries say. A nested query that is attached
twice is there twice and counts twice. -/
theorem Reachable.bookkept_entries {q : Query} (h : Reachable q) :
    q.Bookkept ∧
    ∀ t, Reachable t → ∀ connector connector',
      ((q.addTree connector t).addTree connector' t).summary.count =
        q.criterionFields.length + 2 * t.criterionFields.length := by
  refine ⟨h.built.bookkept, fun t ht connector connector' => ?_⟩
  rw [Query.addTree_eq, Query.addTree_eq]
  have hq' := (h.built.tree ht.built connector).tree ht.built connector'
  rw [hq'.bookkept.count, Query.criterionFields_push, Query.criterionFields_push,
    Query.criterionFieldsOfItem, List.length_append, List.length_append]
  omega

/-- Thirty-year-olds called Ann: the first entry is attached with `OR`. -/
def anns : Query :=
  (Query.forEntity { name := "User" }).after
    [.literal .or "Name" .equal (.string "Ann") none, .literal .and "Age" .equal (.int 30) none]

/-- Users of one town who are called Bob or are such Anns, which are attached twice. -/
def bobsOrAnns : Query :=
  (Query.forEntity { name := "User" }).after
    [.literal .and "Name" .equal (.string "Bob") none, .tree .or anns, .tree .or anns,
     .literal .and "Town" .equal (.string "Bern") none]

theorem bookkept_entries_bobsOrAnns :
    bobsOrAnns.Bookkept ∧ bobsOrAnns.certainEqualities.map (·.field) = ["Town"] ∧
      ((bobsOrAnns.addTree .and anns).addTree .or anns).summary.count =
        bobsOrAnns.criterionFields.length + 2 * anns.criterionFields.length := by
  have ha : Reachable anns := .perform (.perform (.forEntity _) nofun) nofun
  have htree : ∀ connector, ∀ t ∈ (Operation.tree connector anns).queries .empty, Reachable t :=
    fun _ t ht => List.mem_singleton.mp ht ▸ ha
  have hb : Reachable bobsOrAnns :=
    .perform (.perform (.perform (.perform (.forEntity _) nofun) (htree .or)) (htree .or)) nofun
  exact ⟨hb.bookkept_entries.1, rfl, hb.bookkept_entries.2 anns ha .and .or⟩

end RecordQuery
