import RecordQuery.Proofs.Manager.Merge
import RecordQuery.Proofs.Query.Flags
import RecordQuery.Proofs.Query.Single

/-!
# Nested queries

A nested query goes by its own entity type, or else by the one around it (`Query.inside`), and is met by
the records that it would keep under that type (`meetsItem_tree`). A query nested more deeply stands in
frames, which are the queries around it, each with a gap. By induction on the frames, what the query
around all of them keeps depends on the nested one only through what that keeps under the type of the
nearest frame that is bound (`countsUnder_within`).
-/

namespace RecordQuery

/-! ## Frames -/

/-- A query with a gap among its entries. -/
structure Frame where
  before : List (Entry Query)
  /-- The connector of the entry that fills the gap. -/
  connector : Connector
  after : List (Entry Query)
  joins : Array (Join Query)
  combines : List (Combine Query)
  summary : Summary
  settings : Settings

namespace Frame

/-- Nests a query in the gap. -/
def around (f : Frame) (t : Query) : Query :=
  ⟨f.before ++ ⟨f.connector, .tree t⟩ :: f.after, f.joins, f.combines, f.summary, f.settings⟩

/-- The frame bound to an entity type. -/
def bind (f : Frame) (e : EntityType) : Frame :=
  { f with settings := { f.settings with entity := some e } }

/-- The entity type of the nearest frame that is bound. Frames are listed from the inside out. -/
def nearest (frames : List Frame) : Option EntityType :=
  frames.findSome? (·.settings.entity)

theorem nearest_cons (f : Frame) (frames : List Frame) :
    nearest (f :: frames) = f.settings.entity.or (nearest frames) := by
  rw [nearest, List.findSome?_cons]
  cases f.settings.entity <;> rfl

theorem nearest_bind (frames : List Frame) (f : Frame) (e : EntityType) :
    nearest (frames ++ [f.bind e]) = (nearest frames).or (some e) := by
  rw [nearest, List.findSome?_append]
  rfl

end Frame

namespace Query

variable {q t t' : Query} {record : Record}

/-- The query that results from nesting a query in frames, from the inside out. -/
def within (t : Query) (frames : List Frame) : Query :=
  frames.foldl (fun t f => f.around t) t

theorem within_append (t : Query) (frames more : List Frame) :
    t.within (frames ++ more) = (t.within frames).within more :=
  List.foldl_append ..

/-- A query is nested directly in another if the other is a frame around it. -/
theorem nests_iff : q.Nests t ↔ ∃ f : Frame, q = f.around t := by
  constructor
  · obtain ⟨entries, joins, combines, summary, settings⟩ := q
    rintro ⟨connector, he : _ ∈ entries⟩
    obtain ⟨before, after, rfl⟩ := List.append_of_mem he
    exact ⟨⟨before, connector, after, joins, combines, summary, settings⟩, rfl⟩
  · rintro ⟨f, rfl⟩
    exact ⟨f.connector, List.mem_append_right _ (List.mem_cons_self ..)⟩

/-- The queries nested at any depth are those in frames. -/
theorem nested_iff_within :
    Relation.ReflTransGen Nests q t ↔ ∃ frames, q = t.within frames := by
  constructor
  · intro h
    induction h with
    | refl => exact ⟨[], rfl⟩
    | tail _ hn ih =>
      obtain ⟨frames, rfl⟩ := ih
      obtain ⟨f, rfl⟩ := nests_iff.mp hn
      exact ⟨f :: frames, rfl⟩
  · rintro ⟨frames, rfl⟩
    induction frames generalizing t with
    | nil => exact .refl
    | cons f frames ih => exact (ih (t := f.around t)).tail (nests_iff.mpr ⟨f, rfl⟩)

/-! ## The entity type of a nested query -/

/-- A nested query as it counts, where the queries around it give an entity type or none. -/
def inside (t : Query) : Option EntityType → Query
  | some e => t.boundOr e
  | none => t

theorem keeps_inside (t : Query) (outer : Option EntityType) (record : Record) :
    (t.inside outer).keeps record = (!t.isComplex && t.meets (t.entity.or outer) record) := by
  cases outer with
  | some e => exact t.keeps_boundOr e record
  | none =>
    rw [Option.or_none]
    rfl

/-- A nested query is met by the records that it keeps under the entity type it goes by. -/
theorem meetsItem_tree (ht : t.isComplex = false) (outer : Option EntityType) :
    meetsItem outer record (.tree t) = (t.inside outer).keeps record := by
  rw [keeps_inside, ht, meetsItem, Bool.not_false, Bool.true_and]

/-! ## Nesting at any depth -/

/-- What one item means is all that other entries have to do with it. -/
theorem meetsEntries_congr {entity : Option EntityType} {item item' : Item Query}
    (h : meetsItem entity record item = meetsItem entity record item') (before : List (Entry Query))
    (connector : Connector) (after : List (Entry Query)) :
    meetsEntries entity record (before ++ ⟨connector, item⟩ :: after) =
      meetsEntries entity record (before ++ ⟨connector, item'⟩ :: after) := by
  cases before with
  | nil => simp only [List.nil_append, meetsEntries, h]
  | cons x before => simp only [List.cons_append, meetsEntries, meetsMore_append, meetsMore, h]

theorem meets_within {frames : List Frame}
    (h : meetsItem (Frame.nearest frames) record (.tree t) =
      meetsItem (Frame.nearest frames) record (.tree t')) :
    meetsItem none record (.tree (t.within frames)) =
      meetsItem none record (.tree (t'.within frames)) := by
  induction frames generalizing t t' with
  | nil => exact h
  | cons f frames ih =>
    refine @ih (f.around t) (f.around t') ?_
    rw [Frame.nearest_cons] at h
    rw [meetsItem, meetsItem, meets_eq, meets_eq]
    exact meetsEntries_congr h f.before f.connector f.after

/-- Whether a query with a nested one keeps a record depends only on whether the nested one keeps it
under an entity type. -/
def CountsUnder (record : Record) (around : Query → Query) (entity : Option EntityType) : Prop :=
  ∀ t t' : Query, t.isComplex = false → t'.isComplex = false →
    (t.inside entity).keeps record = (t'.inside entity).keeps record →
    (around t).keeps record = (around t').keeps record

theorem isComplex_within {frames : List Frame} (h : t.isComplex = t'.isComplex) :
    (t.within frames).isComplex = (t'.within frames).isComplex := by
  induction frames generalizing t t' with
  | nil => exact h
  | cons f frames ih => exact @ih (f.around t) (f.around t') rfl

/-- It is the nearest frame that is bound which gives the entity type. -/
theorem countsUnder_within (record : Record) (frames : List Frame) :
    CountsUnder record (·.within frames) (Frame.nearest frames) := by
  intro t t' ht ht' h
  rw [← meetsItem_tree ht, ← meetsItem_tree ht'] at h
  have hcomplex : (t.within frames).isComplex = (t'.within frames).isComplex :=
    isComplex_within (ht.trans ht'.symm)
  have hkeeps (q : Query) : q.keeps record = (!q.isComplex && meetsItem none record (.tree q)) := by
    rw [meetsItem]
    exact keeps_inside q none record
  simp only [hkeeps, hcomplex, meets_within h]

theorem setEntity_within (t : Query) (frames : List Frame) (outermost : Frame) (e : EntityType) :
    (t.within (frames ++ [outermost])).setEntity e = t.within (frames ++ [outermost.bind e]) := by
  rw [within_append, within_append]
  rfl

/-- A nested query counts as what it keeps under its own entity type, or under that of the query that it
is attached to. With `AND` it restricts what that query keeps, with `OR` it extends it or takes the
place of nothing. This goes on when that query is bound to another type. At any depth, a nested query
goes by the nearest query around it that is bound, unless it is bound itself. -/
theorem keeps_addTree {q n : Query} (hq : q.isComplex = false) (hn : n.isComplex = false)
    (record : Record) :
    (∀ connector, (addItem connector (.tree n)).run q = .ok () (q.addTree connector n)) ∧
    (q.addTree .and n).keeps record = (q.keeps record && (n.inside q.entity).keeps record) ∧
    (q.addTree .or n).keeps record =
      (if q.entries = [] then (n.inside q.entity).keeps record
        else (q.keeps record || (n.inside q.entity).keeps record)) ∧
    (∀ e,
      ((q.addTree .and n).setEntity e).keeps record =
        ((q.setEntity e).keeps record && (n.inside (some e)).keeps record) ∧
      ((q.addTree .or n).setEntity e).keeps record =
        if q.entries = [] then (n.inside (some e)).keeps record
        else ((q.setEntity e).keeps record || (n.inside (some e)).keeps record)) ∧
    (∀ x t : Query, Relation.ReflTransGen Nests x t ↔ ∃ frames, x = t.within frames) ∧
    (∀ frames, CountsUnder record (·.within frames) (Frame.nearest frames)) ∧
    ∀ frames outermost e, CountsUnder record (fun t => (t.within (frames ++ [outermost])).setEntity e)
      ((Frame.nearest frames).or (some e)) := by
  have htree : (Item.tree n).summary.isComplex = false := hn
  have hand {q : Query} (hq : q.isComplex = false) : (q.addTree .and n).keeps record =
      (q.keeps record && (n.inside q.entity).keeps record) := by
    rw [addTree_eq, keeps_push_and hq htree, meetsItem_tree hn]
  have hor {q : Query} (hq : q.isComplex = false) : (q.addTree .or n).keeps record =
      if q.entries = [] then (n.inside q.entity).keeps record
      else (q.keeps record || (n.inside q.entity).keeps record) := by
    rw [addTree_eq, keeps_push_or hq htree, meetsItem_tree hn]
  refine ⟨fun connector => ?_, hand hq, hor hq, fun e => ?_, fun _ _ => nested_iff_within,
    countsUnder_within record, fun frames outermost e => ?_⟩
  · rw [run_addItem, addTree_eq]
    rfl
  · -- attaching and binding may change places
    exact ⟨hand (q := q.setEntity e) hq, hor (q := q.setEntity e) hq⟩
  · simp only [setEntity_within]
    rw [← Frame.nearest_bind frames outermost e]
    exact countsUnder_within record _

/-- A test for null that is nested, and not bound, in a query that is bound later to a type whose records
always have the field. -/
theorem keeps_addTree_ageless :
    empty.isComplex = false ∧ (single none "Age" .isNull .null).isComplex = false ∧
    (empty.addTree .or (single none "Age" .isNull .null)).keeps (fun _ => none) = true ∧
    ((empty.addTree .or (single none "Age" .isNull .null)).setEntity aged).keeps
      (fun _ => none) = false := by
  have hn : (single none "Age" .isNull .null).isComplex = false := by decide
  have hq : empty.isComplex = false := rfl
  obtain ⟨-, -, hor, hrebound, -⟩ := keeps_addTree hq hn fun _ => none
  obtain ⟨-, horBound⟩ := hrebound aged
  exact ⟨hq, hn, hor.trans (by decide), horBound.trans (by decide)⟩

end Query

end RecordQuery
