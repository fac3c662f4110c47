import RecordQuery.Proofs.Query.Single

/-!
# Groups of fields

A group compares several fields with one value. It is a nested query with one condition for each field
that is not blank (`group_eq`), bound to no entity type, and it is met where every field or any field
meets the comparison (`meets_group`). `keeps_addGroup` says what a query keeps with a group: the group
counts as one entry, and its conditions go by the entity type of the query around it.
-/

namespace RecordQuery

/-- Whether every element or any element passes a test. -/
def Connector.across {α : Type} (connector : Connector) (test : α → Bool) (xs : List α) : Bool :=
  match connector with
  | .and => xs.all test
  | .or => xs.any test

theorem Connector.across_congr {α : Type} {connector : Connector} {test test' : α → Bool}
    {xs : List α} (h : ∀ x ∈ xs, test x = test' x) :
    connector.across test xs = connector.across test' xs := by
  have hmap (test : α → Bool) : connector.across test xs = connector.across id (xs.map test) := by
    cases connector with
    | and => exact (List.all_map (p := id)).symm
    | or => exact (List.any_map (p := id)).symm
  rw [hmap, hmap test', List.map_congr_left h]

namespace Query

/-- The fields of a group that count. -/
def namedFields (fields : List String) : List String :=
  fields.filter (!Text.allBlank ·)

/-- Appends a comparison with one value for each of several fields. -/
def withFields (q : Query) (connector : Connector) (op : Comparison) (v : Value)
    (converter : Option Converter) (fields : List String) : Query :=
  fields.foldl (fun q field => q.push connector (literal field op v converter)) q

variable {connector : Connector} {op : Comparison} {v : Value} {converter : Option Converter}
  {entity : Option EntityType} {record : Record}

/-! ## The nested query of a group -/

/-- A group has one condition for each field that is not blank. -/
theorem group_eq (fields : List String) :
    group connector op v converter fields =
      empty.withFields connector op v converter (namedFields fields) := by
  have hadd : (fun (q : Query) field => q.addLiteral connector field op v converter) = fun q field =>
      if (!Text.allBlank field) = true then q.push connector (literal field op v converter) else q := by
    funext q field
    rw [addLiteral_eq, literal]
    cases Text.allBlank field <;> rfl
  rw [group, withFields, namedFields, List.foldl_filter, hadd]

theorem withFields_cons (q : Query) (field : String) (fields : List String) :
    q.withFields connector op v converter (field :: fields) =
      (q.push connector (literal field op v converter)).withFields connector op v converter fields :=
  rfl

theorem entries_withFields (q : Query) (fields : List String) :
    (q.withFields connector op v converter fields).entries =
      q.entries ++ fields.map fun field => ⟨connector, literal field op v converter⟩ := by
  induction fields generalizing q with
  | nil => exact (List.append_nil _).symm
  | cons field fields ih =>
    rw [withFields_cons, ih, List.map_cons, List.append_cons]
    rfl

theorem count_withFields (q : Query) (fields : List String) :
    (q.withFields connector op v converter fields).summary.count =
      q.summary.count + fields.length := by
  induction fields generalizing q with
  | nil => rfl
  | cons field fields ih =>
    rw [withFields_cons, ih, List.length_cons, Nat.add_comm fields.length, ← Nat.add_assoc]
    rfl

/-- Conditions with values leave the entity type, and need no database. -/
theorem withFields_kept (q : Query) (fields : List String) :
    (q.withFields connector op v converter fields).entity = q.entity ∧
      (q.withFields connector op v converter fields).isComplex = q.isComplex := by
  induction fields generalizing q with
  | nil => exact ⟨rfl, rfl⟩
  | cons field fields ih =>
    obtain ⟨hentity, hcomplex⟩ := ih (q.push connector (literal field op v converter))
    exact ⟨hentity, hcomplex.trans ((Summary.isComplex_add ..).trans (Bool.or_false _))⟩

theorem group_kept (fields : List String) :
    (group connector op v converter fields).entity = none ∧
      (group connector op v converter fields).isComplex = false := by
  rw [group_eq]
  exact withFields_kept empty (namedFields fields)

/-! ## What a group means -/

/-- Conditions that follow one another with one connector are met all together or one by one. -/
theorem meetsMore_fields (before : Bool) (fields : List String) :
    meetsMore entity record before
        (fields.map fun field => ⟨connector, literal field op v converter⟩) =
      connector.join before (connector.across (keepsOn entity record · op v) fields) := by
  induction fields generalizing before with
  | nil => cases connector <;> simp [meetsMore, Connector.join, Connector.across]
  | cons field fields ih =>
    rw [List.map_cons, meetsMore, ih, meetsItem_literal]
    cases connector <;> simp [Connector.join, Connector.across, Bool.and_assoc, Bool.or_assoc]

/-- A group is met where every field meets the comparison, or where any field does. -/
theorem meets_group {fields : List String} (hf : namedFields fields ≠ []) :
    (group connector op v converter fields).meets entity record =
      connector.across (keepsOn entity record · op v) (namedFields fields) := by
  obtain ⟨field, rest, hfields⟩ := List.exists_cons_of_ne_nil hf
  rw [group_eq, hfields, meets_eq, entries_withFields]
  -- the first condition has nothing before it, so its connector does not count
  show meetsMore entity record (meetsItem entity record _) (rest.map _) = _
  rw [meetsMore_fields, meetsItem_literal]
  cases connector <;> rfl

/-- A nested group goes by the entity type around it. -/
theorem meetsItem_group {fields : List String} (hf : namedFields fields ≠ []) :
    meetsItem entity record (.tree (group connector op v converter fields)) =
      connector.across (fun field => (single entity field op v converter).keeps record)
        (namedFields fields) := by
  rw [meetsItem, (group_kept fields).1, Option.none_or, meets_group hf]
  refine Connector.across_congr fun field hfield => ?_
  have hblank : Text.allBlank field = false := by
    simpa using (List.mem_filter.mp hfield).2
  exact (keeps_single hblank ..).symm

/-- A group is appended as one entry, unless it has no field that counts. -/
theorem addGroup_eq (q : Query) (outer : Connector) (fields : List String) :
    q.addGroup outer connector op v converter fields =
      if namedFields fields = [] then q
      else q.push outer (.tree (group connector op v converter fields)) := by
  have hempty : (group connector op v converter fields).entries.isEmpty =
      (namedFields fields).isEmpty := by
    rw [group_eq, entries_withFields]
    exact List.isEmpty_map
  simp only [addGroup, hempty, List.isEmpty_iff]

/-- A group of fields, of which blank ones do not count, is appended as one entry, or not at all if no
field counts. It is met by the records that meet the comparison in any of the fields (`OR`), or in
every one (`AND`), under the entity type of the query. -/
theorem keeps_addGroup {q : Query} (hq : q.isComplex = false) (connector : Connector)
    (op : Comparison) (v : Value) (converter : Option Converter) (fields : List String) :
    (namedFields fields = [] →
      ∀ outer, q.addGroup outer connector op v converter fields = q) ∧
    (namedFields fields ≠ [] →
      (∀ outer,
        (∃ tree, (q.addGroup outer connector op v converter fields).entries =
          q.entries ++ [⟨outer, .tree tree⟩]) ∧
        (q.addGroup outer connector op v converter fields).summary.count =
          q.summary.count + (namedFields fields).length) ∧
      ∀ record,
        (q.addGroup .and connector op v converter fields).keeps record =
          (q.keeps record && connector.across
            (fun field => (single q.entity field op v converter).keeps record)
            (namedFields fields)) ∧
        (q.addGroup .or connector op v converter fields).keeps record =
          if q.entries = [] then
            connector.across (fun field => (single q.entity field op v converter).keeps record)
              (namedFields fields)
          else
            (q.keeps record || connector.across
              (fun field => (single q.entity field op v converter).keeps record)
              (namedFields fields))) := by
  refine ⟨fun hf outer => ?_, fun hf => ⟨fun outer => ⟨?_, ?_⟩, fun record => ?_⟩⟩
  · rw [addGroup_eq, if_pos hf]
  · rw [addGroup_eq, if_neg hf]
    exact ⟨_, rfl⟩
  · have hcount : (group connector op v converter fields).summary.count =
        (namedFields fields).length := by
      rw [group_eq, count_withFields]
      exact Nat.zero_add _
    rw [addGroup_eq, if_neg hf, ← hcount]
    rfl
  · have htree : (Item.tree (group connector op v converter fields)).summary.isComplex = false :=
      (group_kept fields).2
    rw [addGroup_eq, addGroup_eq, if_neg hf, if_neg hf, keeps_push_and hq htree,
      keeps_push_or hq htree, meetsItem_group hf]
    exact ⟨rfl, rfl⟩

/-- A query for users with a status, to which groups with a blank field are added. -/
theorem keeps_addGroup_nicknamed :
    (single (some aged) "Status" .equal (.int 1)).isComplex = false ∧
    namedFields ["Name", " ", "Nickname"] ≠ [] ∧
    (∀ record,
      ((single (some aged) "Status" .equal (.int 1)).addGroup .and .or .equal (.string "Bob") none
          ["Name", " ", "Nickname"]).keeps record =
        ((single (some aged) "Status" .equal (.int 1)).keeps record &&
          ["Name", "Nickname"].any fun field =>
            (single (some aged) field .equal (.string "Bob")).keeps record)) ∧
    namedFields ["", " "] = [] ∧
    (single (some aged) "Status" .equal (.int 1)).addGroup .or .and .equal .null none ["", " "] =
      single (some aged) "Status" .equal (.int 1) := by
  have hq : (single (some aged) "Status" .equal (.int 1)).isComplex = false := by decide
  have hnamed : namedFields ["Name", " ", "Nickname"] = ["Name", "Nickname"] := by decide
  have hne : namedFields ["Name", " ", "Nickname"] ≠ [] := by
    rw [hnamed]
    nofun
  have hblank : namedFields ["", " "] = [] := by decide
  obtain ⟨-, hkeeps⟩ := keeps_addGroup hq .or .equal (.string "Bob") none ["Name", " ", "Nickname"]
  obtain ⟨hsame, -⟩ := keeps_addGroup hq .and .equal .null none ["", " "]
  refine ⟨hq, hne, fun record => ?_, hblank, hsame hblank .or⟩
  have hand := ((hkeeps hne).2 record).1
  rw [hnamed] at hand
  exact hand

end Query

end RecordQuery
