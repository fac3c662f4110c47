import RecordQuery.Manager
import RecordQuery.Proofs.Query.Build
import RecordQuery.Proofs.Query.Filter

/-!
# Merging global conditions

What one call of `Manager.applyGlobal` does: nothing to a query that is marked or bound to no entity
type (`applyGlobal_of_idle`), and otherwise it appends the conditions with entries as nested queries and
sets the mark (`applyGlobal_of_awaiting`, `foldl_merge`). Watched, such a call asks every provider once,
in order, about the query as it was (`watch_of_awaiting`), and any other call asks none
(`watch_of_idle`).
-/

namespace RecordQuery

/-! ## Nested queries one after the other -/

namespace GlobalCondition

/-- Whether there is anything to merge. -/
def hasEntries (c : GlobalCondition) : Bool :=
  !c.query.entries.isEmpty

/-- The entry that a merged condition becomes. -/
def entry (c : GlobalCondition) : Entry Query :=
  ⟨c.connector, .tree c.query⟩

end GlobalCondition

namespace Query

variable {q : Query} {e : EntityType} {record : Record} {conditions : List GlobalCondition}

/-- The query bound to an entity type, unless it is bound already. -/
def boundOr (q : Query) (e : EntityType) : Query :=
  if q.entity.isNone then q.setEntity e else q

/-- Appends conditions as nested queries. -/
def withConditions (q : Query) (conditions : List GlobalCondition) : Query :=
  conditions.foldl (fun q c => q.push c.connector (.tree c.query)) q

/-- Merging skips the conditions without entries. -/
theorem foldl_merge (q : Query) (conditions : List GlobalCondition) :
    conditions.foldl Manager.merge q = q.withConditions (conditions.filter (·.hasEntries)) := by
  have hmerge : Manager.merge = fun q (c : GlobalCondition) =>
      if c.hasEntries then q.push c.connector (.tree c.query) else q := by
    funext q c
    rw [Manager.merge, addTree_eq, GlobalCondition.hasEntries]
    cases c.query.entries.isEmpty <;> rfl
  rw [withConditions, List.foldl_filter, hmerge]

theorem entries_withConditions (q : Query) (conditions : List GlobalCondition) :
    (q.withConditions conditions).entries = q.entries ++ conditions.map (·.entry) := by
  unfold withConditions
  induction conditions generalizing q with
  | nil => rw [List.foldl_nil, List.map_nil, List.append_nil]
  | cons c rest ih =>
    rw [List.foldl_cons, ih, List.map_cons, List.append_cons]
    rfl

/-- Appending conditions leaves everything else but the summary. -/
theorem withConditions_kept (q : Query) (conditions : List GlobalCondition) :
    (q.withConditions conditions).joins = q.joins ∧
      (q.withConditions conditions).combines = q.combines ∧
      (q.withConditions conditions).settings = q.settings := by
  unfold withConditions
  induction conditions generalizing q with
  | nil => exact ⟨rfl, rfl, rfl⟩
  | cons c rest ih => exact ih (q.push c.connector (.tree c.query))

/-- A query that is bound goes by its own entity type. -/
theorem keeps_boundOr (q : Query) (e : EntityType) (record : Record) :
    (q.boundOr e).keeps record = (!q.isComplex && q.meets (q.entity.or (some e)) record) := by
  unfold boundOr
  cases he : q.entity with
  | some e' => rw [Option.isNone_some, if_neg Bool.false_ne_true, keeps, he, Option.some_or]
  | none =>
    have hmeets : (q.setEntity e).meets (some e) record = q.meets (some e) record := by
      rw [meets_eq, meets_eq]
      rfl
    rw [Option.isNone_none, if_pos rfl, Option.none_or, ← hmeets]
    rfl

/-- A query connected with `AND` restricts what is kept to what it keeps itself. -/
theorem keeps_push_tree {t : Query} {connector : Connector} (he : q.entity = some e)
    (hc : q.effective connector = .and) :
    (q.push connector (.tree t)).keeps record = (q.keeps record && (t.boundOr e).keeps record) := by
  have hcomplex : (q.push connector (.tree t)).isComplex = (q.isComplex || t.isComplex) :=
    Summary.isComplex_add ..
  have hmeets : (q.push connector (.tree t)).meets q.entity record =
      (q.meets q.entity record && t.meets (t.entity.or q.entity) record) := by
    rw [meets_push_effective, hc, meetsItem]
    rfl
  have hentity : (q.push connector (.tree t)).entity = q.entity := rfl
  rw [keeps, hcomplex, hentity, hmeets, keeps, keeps_boundOr, he]
  cases q.isComplex <;> cases t.isComplex <;> simp

theorem keeps_withConditions (he : q.entity = some e) (hc : ∀ c ∈ conditions, c.connector = .and) :
    (q.withConditions conditions).keeps record =
      (q.keeps record && conditions.all fun c => (c.query.boundOr e).keeps record) := by
  unfold withConditions
  induction conditions generalizing q with
  | nil => rw [List.foldl_nil, List.all_nil, Bool.and_true]
  | cons c rest ih =>
    obtain ⟨hfirst, hrest⟩ := List.forall_mem_cons.mp hc
    have heffective : q.effective c.connector = .and := by
      rw [hfirst, effective, ite_self]
    rw [List.foldl_cons, ih (q := q.push c.connector (.tree c.query)) he hrest,
      keeps_push_tree he heffective, List.all_cons, Bool.and_assoc]

/-- A query either has nothing to do with global conditions or is bound and has none yet. -/
theorem idle_or_awaiting (q : Query) :
    (q.settings.globalApplied = true ∨ q.entity = none) ∨
      ∃ e, q.entity = some e ∧ q.settings.globalApplied = false := by
  cases q.settings.globalApplied with
  | true => exact .inl (.inl rfl)
  | false =>
    cases q.entity with
    | none => exact .inl (.inr rfl)
    | some e => exact .inr ⟨e, rfl, rfl⟩

end Query

/-! ## Asking the providers -/

/-- A provider and what it is asked about. -/
structure Inquiry where
  provider : GlobalProvider
  context : GlobalContext

/-- Asks a provider and notes that it was asked. -/
def GlobalProvider.noted (p : GlobalProvider) (context : GlobalContext) :
    StateM (List Inquiry) (Option GlobalCondition) := do
  modify (· ++ [⟨p, context⟩])
  pure (p context)

namespace Manager

variable {m : Manager} {scene : UsageScene} {source : Option String} {q : Query} {e : EntityType}

/-- The query after the global conditions are applied, and the inquiries that are made for that. -/
def watch (m : Manager) (scene : UsageScene) (source : Option String) (q : Query) :
    Query × List Inquiry :=
  (m.applyGlobalBy GlobalProvider.noted scene source q).run []

/-- Providers that are just asked give their conditions. -/
theorem filterMapM_pure (providers : List GlobalProvider) (context : GlobalContext) :
    (providers.filterMapM fun p => (pure (p context) : Id _)) =
      providers.filterMap (· context) := by
  induction providers with
  | nil => rfl
  | cons p rest ih =>
    rw [List.filterMapM_cons, List.filterMap_cons]
    rw [pure_bind]
    cases p context with
    | none => exact ih
    | some c => exact congrArg (c :: ·) ih

/-- Providers that are asked one after the other give the same conditions, and each is noted once. -/
theorem run_filterMapM_noted (providers : List GlobalProvider) (context : GlobalContext)
    (log : List Inquiry) :
    (providers.filterMapM fun p : GlobalProvider => p.noted context).run log =
      (providers.filterMap (· context), log ++ providers.map (⟨·, context⟩)) := by
  induction providers generalizing log with
  | nil => rw [List.map_nil, List.append_nil]; rfl
  | cons p rest ih =>
    rw [List.filterMapM_cons, List.filterMap_cons, List.map_cons, List.append_cons]
    have hnote : (p.noted context).run log = (p context, log ++ [⟨p, context⟩]) := rfl
    rw [StateT.run_bind, hnote]
    cases p context with
    | none => exact ih _
    | some c => exact congrArg (fun r => (c :: r.1, r.2)) (ih _)

/-- A query that is marked or bound to no entity type is left alone. -/
theorem applyGlobalBy_of_idle {M : Type → Type} [Monad M]
    (ask : GlobalProvider → GlobalContext → M (Option GlobalCondition))
    (h : q.settings.globalApplied = true ∨ q.entity = none) :
    m.applyGlobalBy ask scene source q = pure q := by
  unfold applyGlobalBy
  split
  · rfl
  · rename_i hg
    rw [h.resolve_left hg]

theorem applyGlobal_of_idle (h : q.settings.globalApplied = true ∨ q.entity = none) :
    m.applyGlobal scene source q = q := by
  rw [applyGlobal, applyGlobalBy_of_idle _ h]
  rfl

theorem watch_of_idle (h : q.settings.globalApplied = true ∨ q.entity = none) :
    m.watch scene source q = (q, []) := by
  rw [watch, applyGlobalBy_of_idle _ h]
  rfl

section Awaiting

variable (he : q.entity = some e) (hg : q.settings.globalApplied = false)

include he hg

theorem applyGlobalBy_of_awaiting {M : Type → Type} [Monad M]
    (ask : GlobalProvider → GlobalContext → M (Option GlobalCondition)) :
    m.applyGlobalBy ask scene source q =
      (m.providers.filterMapM fun p => ask p ⟨e, scene, source, q⟩) >>= fun conditions =>
        pure ((conditions.foldl merge q).configure fun s => { s with globalApplied := true }) := by
  unfold applyGlobalBy
  rw [hg, he, if_neg Bool.false_ne_true]

theorem applyGlobal_of_awaiting :
    m.applyGlobal scene source q =
      ((m.conditions ⟨e, scene, source, q⟩).foldl merge q).configure
        fun s => { s with globalApplied := true } := by
  rw [applyGlobal, applyGlobalBy_of_awaiting he hg, filterMapM_pure]
  rfl

/-- A query that awaits its global conditions is shown to each provider once, in order and as it was. -/
theorem watch_of_awaiting :
    m.watch scene source q =
      (m.applyGlobal scene source q, m.providers.map (⟨·, ⟨e, scene, source, q⟩⟩)) := by
  rw [watch, applyGlobalBy_of_awaiting he hg, StateT.run_bind, run_filterMapM_noted,
    applyGlobal_of_awaiting he hg]
  rfl

end Awaiting

end Manager

end RecordQuery
