import RecordQuery.Proofs.Fields
import RecordQuery.Proofs.Value.Int64
import RecordQuery.Value.Json

/-!
# Values and JSON, there and back

The two readers of JSON trees give the same value (`decode_eq_ofJson`), by induction on the tree. It has
its maps in order (`inOrder_ofJson`). A value in order that is written as a tree is read back from it as
`onlyFinite` says, by induction on the value: as it was, but for floats that JSON cannot hold.
-/

namespace RecordQuery.Value

/-! ## Values as JSON holds them -/

/-- The names in each map inside the value are in strictly increasing order. -/
inductive InOrder : Value → Prop
  | null : InOrder null
  | bool (b : Bool) : InOrder (bool b)
  | int (n : Int64) : InOrder (int n)
  | float (x : Float) : InOrder (float x)
  | string (s : String) : InOrder (string s)
  | list {items : List Value} (h : ∀ v ∈ items, InOrder v) : InOrder (list items)
  | map {entries : Fields Value} (ho : entries.Ordered) (h : ∀ p ∈ entries, InOrder p.2) :
      InOrder (map entries)

/-- Each float inside the value is finite. -/
inductive FloatsFinite : Value → Prop
  | null : FloatsFinite null
  | bool (b : Bool) : FloatsFinite (bool b)
  | int (n : Int64) : FloatsFinite (int n)
  | float {x : Float} (h : x.isFinite = true) : FloatsFinite (float x)
  | string (s : String) : FloatsFinite (string s)
  | list {items : List Value} (h : ∀ v ∈ items, FloatsFinite v) : FloatsFinite (list items)
  | map {entries : Fields Value} (h : ∀ p ∈ entries, FloatsFinite p.2) : FloatsFinite (map entries)

mutual

/-- The value with null in the place of each float inside it that is not finite. -/
def onlyFinite : Value → Value
  | float x => if x.isFinite then float x else null
  | list items => list (itemsOnlyFinite items)
  | map entries => map (entriesOnlyFinite entries)
  | v => v

/-- The items of a list, with null for floats that are not finite. -/
def itemsOnlyFinite : List Value → List Value
  | [] => []
  | v :: vs => v.onlyFinite :: itemsOnlyFinite vs

/-- The entries of a map, with null for floats that are not finite. -/
def entriesOnlyFinite : List (String × Value) → List (String × Value)
  | [] => []
  | (name, v) :: rest => (name, v.onlyFinite) :: entriesOnlyFinite rest

end

mutual

theorem onlyFinite_eq_self : ∀ {v : Value}, v.FloatsFinite → v.onlyFinite = v
  | null, _ | bool _, _ | int _, _ | string _, _ => rfl
  | float x, .float h => if_pos h
  | list items, .list h => by rw [onlyFinite, itemsOnlyFinite_eq_self h]
  | map entries, .map h => by rw [onlyFinite, entriesOnlyFinite_eq_self h]

theorem itemsOnlyFinite_eq_self : ∀ {items : List Value}, (∀ v ∈ items, v.FloatsFinite) →
    itemsOnlyFinite items = items
  | [], _ => rfl
  | v :: vs, h => by
    have hvs : ∀ w ∈ vs, w.FloatsFinite := fun w hw => h w (List.mem_cons_of_mem v hw)
    rw [itemsOnlyFinite, onlyFinite_eq_self (h v List.mem_cons_self), itemsOnlyFinite_eq_self hvs]

theorem entriesOnlyFinite_eq_self : ∀ {entries : List (String × Value)},
    (∀ p ∈ entries, p.2.FloatsFinite) → entriesOnlyFinite entries = entries
  | [], _ => rfl
  | (name, v) :: rest, h => by
    have hrest : ∀ p ∈ rest, p.2.FloatsFinite := fun p hp => h p (List.mem_cons_of_mem _ hp)
    rw [entriesOnlyFinite, onlyFinite_eq_self (h (name, v) List.mem_cons_self),
      entriesOnlyFinite_eq_self hrest]

end

/-- The names of the entries stay, and so does their order. -/
theorem ordered_entriesOnlyFinite {entries : Fields Value} (h : entries.Ordered) :
    Fields.Ordered (entriesOnlyFinite entries) := by
  have hnames : (entriesOnlyFinite entries).map Prod.fst = entries.map Prod.fst := by
    induction entries with
    | nil => rfl
    | cons p rest ih => exact congrArg (p.1 :: ·) (ih (List.pairwise_cons.mp h).2)
  have hpairwise : ((entriesOnlyFinite entries).map Prod.fst).Pairwise (· < ·) :=
    hnames ▸ List.pairwise_map.mpr h
  exact List.pairwise_map.mp hpairwise

/-! ## What is written is read back -/

mutual

theorem ofJson_toJson : ∀ {v : Value}, v.InOrder → ofJson v.toJson = v.onlyFinite
  | null, _ | bool _, _ | string _, _ => rfl
  | int n, _ => by
    rw [toJson, ofJson, ofWhole, int64?_toInt]
    rfl
  | float x, _ => by
    rw [toJson, Json.ofFloat, onlyFinite]
    split <;> rfl
  | list items, .list h => by rw [toJson, ofJson, itemsOfJson_toJson h, onlyFinite]
  | map entries, .map ho h => by
    rw [toJson, ofJson, membersOfJson_toJson h, onlyFinite,
      Fields.ofList_of_ordered (ordered_entriesOnlyFinite ho)]

theorem itemsOfJson_toJson : ∀ {items : List Value}, (∀ v ∈ items, v.InOrder) →
    itemsOfJson (itemsToJson items) = itemsOnlyFinite items
  | [], _ => rfl
  | v :: vs, h => by
    have hvs : ∀ w ∈ vs, w.InOrder := fun w hw => h w (List.mem_cons_of_mem v hw)
    rw [itemsToJson, itemsOfJson, itemsOnlyFinite, ofJson_toJson (h v List.mem_cons_self),
      itemsOfJson_toJson hvs]

theorem membersOfJson_toJson : ∀ {entries : List (String × Value)}, (∀ p ∈ entries, p.2.InOrder) →
    membersOfJson (entriesToJson entries) = entriesOnlyFinite entries
  | [], _ => rfl
  | (name, v) :: rest, h => by
    have hrest : ∀ p ∈ rest, p.2.InOrder := fun p hp => h p (List.mem_cons_of_mem _ hp)
    rw [entriesToJson, membersOfJson, entriesOnlyFinite, ofJson_toJson (h (name, v) List.mem_cons_self),
      membersOfJson_toJson hrest]

end

/-! ## The two readers -/

theorem decode_whole (n : Int) : decode (.whole n) = ofWhole n := by
  unfold ofWhole
  cases h : int64? n <;>
    simp only [decode, decodeScalar?, List.findSome?_cons, decodeNull?, decodeBool?, decodeInt?, h] <;> rfl

mutual

theorem decode_eq_ofJson : ∀ j : Json, decode j = ofJson j
  | .null | .bool _ | .float _ | .string _ => rfl
  | .whole n => decode_whole n
  | .array items => by
    have h : decode (.array items) = list (decodeItems items) := rfl
    rw [h, decodeItems_eq, ofJson]
  | .object members => by
    have h : decode (.object members) = map (Fields.ofList (decodeMembers members)) := rfl
    rw [h, decodeMembers_eq, ofJson]

theorem decodeItems_eq : ∀ items : List Json, decodeItems items = itemsOfJson items
  | [] => rfl
  | j :: js => by rw [decodeItems, itemsOfJson, decode_eq_ofJson j, decodeItems_eq js]

theorem decodeMembers_eq : ∀ members : List (String × Json),
    decodeMembers members = membersOfJson members
  | [] => rfl
  | (name, j) :: rest => by
    rw [decodeMembers, membersOfJson, decode_eq_ofJson j, decodeMembers_eq rest]

end

mutual

theorem inOrder_ofJson : ∀ j : Json, (ofJson j).InOrder
  | .null => .null
  | .bool b => .bool b
  | .whole n => by
    rw [ofJson, ofWhole]
    split
    · exact .int _
    · exact .float _
  | .float x => .float x
  | .string s => .string s
  | .array items => .list (inOrder_itemsOfJson items)
  | .object members =>
    .map (.ofList _) fun _ hp => inOrder_membersOfJson members _ (Fields.mem_ofList hp)

theorem inOrder_itemsOfJson : ∀ (items : List Json), ∀ v ∈ itemsOfJson items, v.InOrder
  | [], _, h => nomatch h
  | j :: js, v, h => by
    rcases List.mem_cons.mp h with rfl | h
    · exact inOrder_ofJson j
    · exact inOrder_itemsOfJson js v h

theorem inOrder_membersOfJson : ∀ (members : List (String × Json)),
    ∀ p ∈ membersOfJson members, p.2.InOrder
  | [], _, h => nomatch h
  | (_, j) :: rest, p, h => by
    rcases List.mem_cons.mp h with rfl | h
    · exact inOrder_ofJson j
    · exact inOrder_membersOfJson rest p h

end

/-- A value that is written as JSON is read back with null for the floats that are not finite, and so
unchanged if all are finite. From every tree the two readers take the same value. -/
theorem json_roundTrip {v : Value} (hv : v.InOrder) (j : Json) :
    ofJson v.toJson = v.onlyFinite ∧ (v.FloatsFinite → ofJson v.toJson = v) ∧
      decode j = ofJson j ∧ (ofJson j).InOrder := by
  have hread := ofJson_toJson hv
  exact ⟨hread, fun hfinite => hread.trans (onlyFinite_eq_self hfinite), decode_eq_ofJson j,
    inOrder_ofJson j⟩

/-- A whole float beside the integer of the same size, in a map in a list. -/
def measured : Value :=
  list [map [("Count", int 2), ("Mean", float 2.0)], null]

/-- The float is not taken for the integer, also when it is read as the first kind that fits. -/
theorem json_roundTrip_measured :
    measured.InOrder ∧ measured.FloatsFinite ∧ ofJson measured.toJson = measured ∧
      decode measured.toJson = measured := by
  have hordered : measured.InOrder := by
    refine .list fun v hv => ?_
    rcases List.mem_pair.mp hv with rfl | rfl
    · refine .map (List.pairwise_pair.mpr (by decide)) fun p hp => ?_
      rcases List.mem_pair.mp hp with rfl | rfl
      · exact .int 2
      · exact .float 2.0
    · exact .null
  have hfinite : measured.FloatsFinite := by
    refine .list fun v hv => ?_
    rcases List.mem_pair.mp hv with rfl | rfl
    · refine .map fun p hp => ?_
      rcases List.mem_pair.mp hp with rfl | rfl
      · exact .int 2
      · exact .float (by decide)
    · exact .null
  obtain ⟨-, hread, hdecode, -⟩ := json_roundTrip hordered measured.toJson
  exact ⟨hordered, hfinite, hread hfinite, hdecode.trans (hread hfinite)⟩

end RecordQuery.Value
