import Mathlib.Data.List.Nodup
import RecordQuery.Proofs.Query.FixedValues
import RecordQuery.Proofs.Query.Single

/-!
# The identity of a record

A query is restricted to the record with a primary key by one condition of equality for each field of the
key (`withValues_of_named`). Such conditions keep the records with these values (`keeps_withValues`), and
the key is read back from them (`fixedValues_withValues`, `keyValuesOf?_eq_some`), each by induction on
the fields. So `keyValues_addIdentity`: the key of a query for the identity of a record is the key of
the record.
-/

namespace RecordQuery

/-- Equality with a value that is not null is never skipped. -/
theorem keepsOn_equal {v : Value} (hv : v.isNull = false) (entity : Option EntityType)
    (record : Record) (field : String) :
    keepsOn entity record field .equal v = (record.value field == v) := by
  have hnone : Comparison.onRequired? .equal v = none := by
    rw [Comparison.onRequired?, hv, if_neg Bool.false_ne_true]
  simp only [keepsOn, hnone, ite_self]
  rfl

namespace Query

/-! ## Conditions of equality for several fields -/

/-- Appends a condition of equality with the value of a record for each of several fields. -/
def withValues (q : Query) (record : Record) (fields : List String) : Query :=
  fields.foldl (fun q field => q.push .and (literal field .equal (record.value field) none)) q

/-- What the summary remembers of the value of a record. -/
def equality (record : Record) (field : String) : Condition :=
  Condition.settled { field, operator := .equal, operand := .literal (record.value field) }

variable {record : Record} {q : Query} {fields : List String}

theorem withValues_cons (q : Query) (field : String) (fields : List String) :
    q.withValues record (field :: fields) =
      (q.push .and (literal field .equal (record.value field) none)).withValues record fields :=
  rfl

/-- Fields that are not blank are all appended. -/
theorem withValues_of_named (q : Query) (hf : ∀ field ∈ fields, Text.allBlank field = false) :
    fields.foldl (fun q field => q.addLiteral .and field .equal (record.value field)) q =
      q.withValues record fields := by
  refine List.foldl_ext _ _ q fun q field hfield => ?_
  rw [addLiteral_eq, hf field hfield, if_neg Bool.false_ne_true]
  rfl

theorem entity_withValues (q : Query) (fields : List String) :
    (q.withValues record fields).entity = q.entity := by
  induction fields generalizing q with
  | nil => rfl
  | cons field fields ih => exact ih _

/-- A query with the values of a record keeps the records that have them too. -/
theorem keeps_withValues (hq : q.isComplex = false)
    (hn : ∀ field ∈ fields, (record.value field).isNull = false) (s : Record) :
    (q.withValues record fields).keeps s =
      (q.keeps s && fields.all fun field => s.value field == record.value field) := by
  induction fields generalizing q with
  | nil => rw [List.all_nil, Bool.and_true]; rfl
  | cons field fields ih =>
    obtain ⟨hfield, hfields⟩ := List.forall_mem_cons.mp hn
    rw [withValues_cons, ih (isComplex_push hq rfl .and) hfields, keeps_push_and hq rfl,
      meetsItem_literal, keepsOn_equal hfield, List.all_cons, Bool.and_assoc]

/-! ## The key -/

/-- The summary remembers the equality of each field. -/
theorem equalities_withValues (hn : ∀ field ∈ fields, (record.value field).isNull = false) :
    (q.withValues record fields).summary.equalities =
      q.summary.equalities ++ fields.map (equality record) := by
  induction fields generalizing q with
  | nil => exact (List.append_nil _).symm
  | cons field fields ih =>
    obtain ⟨hfield, hfields⟩ := List.forall_mem_cons.mp hn
    have hequal : (equality record field).operator = .equal :=
      (Condition.settled_operator _).trans (Condition.settledOperator_of_not_null hfield)
    have hand : q.effective .and = .and := ite_self _
    have hpush : (q.push .and (literal field .equal (record.value field) none)).summary.equalities =
        q.summary.equalities ++ [equality record field] := by
      show (q.summary.add (q.effective .and) (equality record field).summary).equalities = _
      rw [hand, Condition.summary, if_pos hequal]
      rfl
    rw [withValues_cons, ih hfields, hpush, List.map_cons, List.append_assoc, List.singleton_append]

/-- Each of several different fields is fixed to its value. -/
theorem fixedValues_withValues {field : String} (hq : q.summary.equalities = [])
    (hn : ∀ field ∈ fields, (record.value field).isNull = false) (hd : fields.Nodup)
    (hf : field ∈ fields) : (q.withValues record fields).fixedValues field = [record.value field] := by
  have hfield : (fun c : Condition => c.field == field) ∘ equality record = (· == field) := by
    funext name
    rw [Function.comp_apply, equality, Condition.settled_field]
  rw [fixedValues, equalities_withValues hn, hq, List.nil_append, List.filter_map, hfield,
    List.filter_beq, List.count_eq_one_of_mem hd hf]
  exact congrArg (fun v => [v]) (Condition.settled_value _)

theorem keyValues_eq {e : EntityType} (he : q.entity = some e) (hkeys : e.primaryKeys ≠ []) :
    q.keyValues = .ok (q.keyValuesOf? e.primaryKeys) := by
  simp only [keyValues, he]
  exact if_neg (mt List.isEmpty_iff.mp hkeys)

/-- Keys that are fixed to one value each have values, in order. -/
theorem keyValuesOf?_eq_some {keys : List String}
    (h : ∀ key ∈ keys, q.fixedValues key = [record.value key]) :
    ∃ values, q.keyValuesOf? keys = some values ∧ values.Ordered := by
  induction keys with
  | nil => exact ⟨[], rfl, .nil⟩
  | cons key keys ih =>
    obtain ⟨hkey, hkeys⟩ := List.forall_mem_cons.mp h
    obtain ⟨values, hvalues, hordered⟩ := ih hkeys
    refine ⟨values.insert key (record.value key), ?_, hordered.insert⟩
    rw [keyValuesOf?, hkey, hvalues]
    rfl

end Query

open Query in
/-- Restricting a new query to the identity of a record always succeeds if no value of its key is null
or differs from itself. The key of the query is then that of the record, and it keeps the records with
this key, of which the record is one. -/
theorem keyValues_addIdentity {e : EntityType} {record : Record} (hkeys : e.primaryKeys ≠ [])
    (hd : e.primaryKeys.Nodup) (hb : ∀ key ∈ e.primaryKeys, Text.allBlank key = false)
    (hn : ∀ key ∈ e.primaryKeys, (record.value key).isNull = false)
    (hself : ∀ key ∈ e.primaryKeys, (record.value key == record.value key) = true) :
    ∃ q, (addIdentity e record).run (forEntity e) = .ok () q ∧
      (∃ values, q.keyValues = .ok (some values) ∧ values.Ordered ∧
        ∀ name, values.get? name =
          if name ∈ e.primaryKeys then some (record.value name) else none) ∧
      (∀ s, q.keeps s = true ↔ ∀ key ∈ e.primaryKeys, (s.value key == record.value key) = true) ∧
      q.keeps record = true := by
  refine ⟨(forEntity e).withValues record e.primaryKeys, ?_, ?_, ?_⟩
  · rw [run_addIdentity, if_neg hkeys, withValues_of_named _ hb]
  · have hfixed : ∀ key ∈ e.primaryKeys, _ = [record.value key] := fun key hkey =>
      fixedValues_withValues (q := forEntity e) rfl hn hd hkey
    obtain ⟨values, hvalues, hordered⟩ := keyValuesOf?_eq_some hfixed
    refine ⟨values, ?_, hordered, fun name => ?_⟩
    · rw [keyValues_eq (entity_withValues _ _) hkeys, hvalues]
    · obtain ⟨hmem, hnot⟩ := get?_keyValuesOf? hvalues name
      split
      · rename_i hname
        obtain ⟨v, hv, hget⟩ := hmem hname
        rw [hfixed name hname, List.mem_singleton] at hv
        rw [hget, hv]
      · rename_i hname
        exact hnot hname
  · have hkeeps : ∀ s, ((forEntity e).withValues record e.primaryKeys).keeps s = true ↔
        ∀ key ∈ e.primaryKeys, (s.value key == record.value key) = true := by
      intro s
      have hfresh : (forEntity e).keeps s = true := keeps_of_no_entries rfl rfl
      rw [keeps_withValues rfl hn, hfresh, Bool.true_and, List.all_eq_true]
    exact ⟨hkeeps, (hkeeps record).mpr hself⟩

/-- Seats, which are known by their row and their place. -/
def seats : EntityType :=
  (({ name := "Seat" } : EntityType).withKey "Row").withKey "Place"

/-- A seat whose place is a list. -/
def leftSeat : Record
  | "Row" => some (.int 4)
  | "Place" => some (.list [.string "left", .null])
  | _ => none

open Query in
theorem keyValues_addIdentity_leftSeat :
    seats.primaryKeys ≠ [] ∧ seats.primaryKeys.Nodup ∧
    (∀ key ∈ seats.primaryKeys, Text.allBlank key = false) ∧
    (∀ key ∈ seats.primaryKeys, (leftSeat.value key).isNull = false) ∧
    (∀ key ∈ seats.primaryKeys, (leftSeat.value key == leftSeat.value key) = true) ∧
    ∃ q, (addIdentity seats leftSeat).run (forEntity seats) = .ok () q ∧ q.keeps leftSeat = true ∧
      ∃ values, q.keyValues = .ok (some values) ∧ values.get? "Row" = some (.int 4) ∧
        values.get? "Place" = some (.list [.string "left", .null]) ∧ values.get? "Name" = none := by
  have hkeys : seats.primaryKeys ≠ [] := nofun
  have hd : seats.primaryKeys.Nodup := by decide
  have hb : ∀ key ∈ seats.primaryKeys, Text.allBlank key = false := by decide
  have hn : ∀ key ∈ seats.primaryKeys, (leftSeat.value key).isNull = false := by decide
  have hself : ∀ key ∈ seats.primaryKeys, (leftSeat.value key == leftSeat.value key) = true := by
    decide
  obtain ⟨q, hrun, ⟨values, hvalues, -, hget⟩, -, hkeeps⟩ :=
    keyValues_addIdentity hkeys hd hb hn hself
  exact ⟨hkeys, hd, hb, hn, hself, q, hrun, hkeeps, values, hvalues, hget "Row", hget "Place",
    hget "Name"⟩

end RecordQuery
