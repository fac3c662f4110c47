import RecordQuery.Proofs.Query.Filter
import RecordQuery.Proofs.Query.Reachable

/-!
# Fixed values

A query keeps a list of conditions of equality that every match meets, from which `Query.fixedValues`
and `Query.keyValues` read off the values of fields. `Query.Built.equalitiesHold` is the invariant of
that list at every depth, and `Reachable.fixedValues_sound` what the two functions promise.
-/

namespace RecordQuery

/-- Whether a name is there. -/
theorem Fields.mem_names_iff {α : Type} (fields : Fields α) (name : String) :
    name ∈ fields.map (·.1) ↔ ∃ x, fields.get? name = some x := by
  induction fields with
  | nil => simp [get?]
  | cons p rest ih =>
    rw [List.map_cons, List.mem_cons, ih, get?]
    by_cases h : name = p.1 <;> simp [h]

namespace Query

/-! ## The equalities hold where the query is met -/

/-- Every record that meets the query has the values of its equalities, whatever the entity type. -/
def EqualitiesHold (q : Query) : Prop :=
  ∀ entity record, q.meets entity record = true →
    ∀ c ∈ q.summary.equalities, (record.value c.field == c.value) = true

variable {q : Query}

/-- An appended item may bring equalities that hold where the item is met. -/
theorem EqualitiesHold.push {item : Item Query} (h : q.EqualitiesHold)
    (hi : ∀ entity record, meetsItem entity record item = true →
      ∀ c ∈ item.summary.equalities, (record.value c.field == c.value) = true)
    (connector : Connector) : (q.push connector item).EqualitiesHold := by
  intro entity record hm c hc
  rw [meets_push_effective] at hm
  change c ∈ (q.summary.add (q.effective connector) item.summary).equalities at hc
  cases hk : q.effective connector with
  | and =>
    rw [hk] at hm hc
    obtain ⟨hq, hitem⟩ := Bool.and_eq_true_iff.mp hm
    rcases List.mem_append.mp hc with hc | hc
    · exact h entity record hq c hc
    · exact hi entity record hitem c hc
  | or =>
    -- an `OR` has forgotten all equalities
    rw [hk] at hc
    cases hc

/-- Only entries and equalities matter. -/
theorem EqualitiesHold.congr {q' : Query} (h : q.EqualitiesHold) (he : q'.entries = q.entries)
    (hs : q'.summary.equalities = q.summary.equalities) : q'.EqualitiesHold := by
  intro entity record hm c hc
  rw [meets_eq, he, ← meets_eq] at hm
  rw [hs] at hc
  exact h entity record hm c hc

/-- Attached conditions of equality hold where they are met. -/
theorem equalities_condition (c : Condition) (entity : Option EntityType) (record : Record)
    (hm : meetsItem entity record (.condition c.settled) = true) :
    ∀ d ∈ (Item.condition c.settled).summary.equalities, (record.value d.field == d.value) = true := by
  intro d hd
  rw [meetsItem] at hm
  change d ∈ (if c.settled.operator = .equal then [c.settled] else []) at hd
  split at hd
  · rename_i ho
    rw [List.mem_singleton.mp hd, Condition.settled_field, Condition.settled_value]
    exact Condition.beq_of_keeps_equal ho hm
  · cases hd

theorem Built.equalitiesHold (h : Built q) : q.EqualitiesHold := by
  induction h with
  | empty =>
    intro _ _ _ c hc
    cases hc
  | condition _ connector c ih => exact ih.push (equalities_condition c) connector
  | @tree _ t _ _ connector ih iht =>
    refine ih.push (fun entity record hm => ?_) connector
    rw [meetsItem] at hm
    exact iht _ record hm
  | subquery _ _ _ connector ih =>
    refine ih.push (fun _ _ _ c hc => ?_) connector
    cases hc
  | join _ _ _ _ _ _ _ _ ih => exact ih.congr rfl rfl
  | combine _ _ _ ih => exact ih.congr rfl rfl
  | recurve _ _ ih => exact ih.congr rfl rfl
  | adjust _ _ ih => exact ih.congr rfl rfl

/-- What a query fixes a field to is the value of that field in every record that the query keeps. -/
theorem EqualitiesHold.fixedValue {record : Record} {field : String} {v : Value}
    (h : q.EqualitiesHold) (hv : v ∈ q.fixedValues field) (hk : q.keeps record = true) :
    (record.value field == v) = true := by
  obtain ⟨c, hc, rfl⟩ := List.mem_map.mp hv
  obtain ⟨hc, hf⟩ := List.mem_filter.mp hc
  have hm := (Bool.and_eq_true_iff.mp hk).2
  rw [← beq_iff_eq.mp hf]
  exact h q.entity record hm c hc

/-! ## Keys -/

/-- The values of keys are under these names and no others, and each is fixed. -/
theorem get?_keyValuesOf? {keys : List String} {values : Fields Value}
    (h : q.keyValuesOf? keys = some values) (key : String) :
    (key ∈ keys → ∃ v ∈ q.fixedValues key, values.get? key = some v) ∧
      (key ∉ keys → values.get? key = none) := by
  induction keys generalizing values with
  | nil =>
    cases h
    exact ⟨nofun, fun _ => rfl⟩
  | cons k keys ih =>
    rw [keyValuesOf?] at h
    split at h
    · rename_i v hv
      obtain ⟨rest, hr, rfl⟩ := Option.map_eq_some_iff.mp h
      rw [Fields.get?_insert]
      by_cases hk : key = k
      · subst hk
        simp [hv]
      · simpa [hk] using ih hr
    · cases h

end Query

/-- Every record that a query keeps has the values that the query fixes. If these make a primary key,
that is a value for each field of the key and for nothing else. -/
theorem Reachable.fixedValues_sound {q : Query} (h : Reachable q) :
    (∀ field, ∀ v ∈ q.fixedValues field, ∀ record, q.keeps record = true →
      (record.value field == v) = true) ∧
    (∀ values, q.keyValues = .ok (some values) → ∃ e, q.entity = some e ∧
      (∀ key, key ∈ values.map (·.1) ↔ key ∈ e.primaryKeys) ∧
      ∀ record, q.keeps record = true → ∀ key ∈ e.primaryKeys,
        ∃ v, values.get? key = some v ∧ (record.value key == v) = true) := by
  have hf := h.built.equalitiesHold
  refine ⟨fun field v hv record hk => hf.fixedValue hv hk, fun values hv => ?_⟩
  unfold Query.keyValues at hv
  split at hv
  · cases hv
  · rename_i e he
    split at hv
    · cases hv
    · have hkeys := Query.get?_keyValuesOf? (Except.ok.inj hv)
      refine ⟨e, he, fun key => ?_, fun record hk key hkey => ?_⟩
      · rw [Fields.mem_names_iff]
        by_cases hkey : key ∈ e.primaryKeys
        · obtain ⟨v, -, hget⟩ := (hkeys key).1 hkey
          simp [hkey, hget]
        · simp [hkey, (hkeys key).2 hkey]
      · obtain ⟨v, hfixed, hget⟩ := (hkeys key).1 hkey
        exact ⟨v, hget, hf.fixedValue hfixed hk⟩

/-- The user with the key 7, found by a nested query that the first entry attaches with `OR`. -/
def seventhUser : Query :=
  let key : Query := ((Operation.literal .and "Id" .equal (.int 7) none).outcome .empty).2
  ((Operation.tree .or key).outcome (.forEntity { name := "User", primaryKeys := ["Id"] })).2

theorem fixedValues_sound_seventhUser :
    (∃ record, seventhUser.keeps record = true) ∧
    (∀ record, seventhUser.keeps record = true → (record.value "Id" == .int 7) = true) ∧
    (∃ values, seventhUser.keyValues = .ok (some values) ∧
      ∀ record, seventhUser.keeps record = true →
        ∃ v, values.get? "Id" = some v ∧ (record.value "Id" == v) = true) := by
  have hkey : Reachable ((Operation.literal .and "Id" .equal (.int 7) none).outcome .empty).2 :=
    .perform .empty nofun
  have h : Reachable seventhUser :=
    .perform (.forEntity _) fun a ha => List.mem_singleton.mp ha ▸ hkey
  have hvalues : seventhUser.keyValues = .ok (some [("Id", .int 7)]) := rfl
  obtain ⟨hfixed, hkeys⟩ := h.fixedValues_sound
  obtain ⟨e, he, -, hrecord⟩ := hkeys _ hvalues
  have hmem : "Id" ∈ e.primaryKeys := by
    cases he
    exact List.mem_singleton_self "Id"
  refine ⟨⟨fun _ => some (.int 7), by decide⟩, fun record hk => hfixed "Id" (.int 7) ?_ record hk,
    _, hvalues, fun record hk => ?_⟩
  · exact List.mem_singleton_self _
  · exact hrecord record hk "Id" hmem

end RecordQuery
