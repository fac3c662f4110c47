import RecordQuery.Proofs.Manager.Merge
import RecordQuery.Proofs.Query.Steps

/-!
# Global conditions are merged once

`Query.Merged` says what a call leaves of a query that awaits its global conditions, and what it keeps
then. Along a history of operations at most one call merges anything: either the history passes as if
its calls were not there (`Query.Unmerged`), or it does so before and after one call
(`Query.MergedAt`). The invariants behind this are that no other operation changes the mark and that
no operation takes back an entry.
-/

namespace RecordQuery

/-! ## One call -/

/-- What a call leaves of a query bound to `e`, if the providers return these conditions. -/
structure Query.Merged (q : Query) (e : EntityType) (conditions : List GlobalCondition)
    (q' : Query) : Prop where
  entries : q'.entries = q.entries ++ (conditions.filter (·.hasEntries)).map (·.entry)
  joins : q'.joins = q.joins
  combines : q'.combines = q.combines
  settings : q'.settings = { q.settings with globalApplied := true }
  keeps : (∀ c ∈ conditions, c.hasEntries = true → c.connector = .and) → ∀ record,
    (q'.keeps record = true ↔ q.keeps record = true ∧ ∀ c ∈ conditions, c.hasEntries = true →
      c.query.isComplex = false ∧ (c.query.boundOr e).keeps record = true)

/-- A complex query keeps nothing. -/
theorem Query.isComplex_of_keeps_boundOr {q : Query} {e : EntityType} {record : Record}
    (h : (q.boundOr e).keeps record = true) : q.isComplex = false := by
  rw [keeps_boundOr, Bool.and_eq_true, Bool.not_eq_true'] at h
  exact h.1

theorem Query.merged_applyGlobal {q : Query} {e : EntityType} (he : q.entity = some e)
    (hg : q.settings.globalApplied = false) (m : Manager) (scene : UsageScene)
    (source : Option String) :
    q.Merged e (m.conditions ⟨e, scene, source, q⟩) (m.applyGlobal scene source q) := by
  rw [Manager.applyGlobal_of_awaiting he hg, foldl_merge]
  generalize m.conditions ⟨e, scene, source, q⟩ = conditions
  obtain ⟨hjoins, hcombines, hsettings⟩ :=
    q.withConditions_kept (conditions.filter (·.hasEntries))
  refine ⟨entries_withConditions _ _, hjoins, hcombines, ?_, fun hand record => ?_⟩
  · show { (q.withConditions (conditions.filter (·.hasEntries))).settings with
      globalApplied := true } = _
    rw [hsettings]
  · -- the mark makes no difference to what is kept
    have hmarked : ((q.withConditions (conditions.filter (·.hasEntries))).configure
        fun s => { s with globalApplied := true }).keeps record =
        (q.withConditions (conditions.filter (·.hasEntries))).keeps record := by
      rw [Query.keeps, Query.keeps, meets_eq, meets_eq]
      rfl
    have hconnectors : ∀ c ∈ conditions.filter (·.hasEntries), c.connector = .and := by
      intro c hc
      obtain ⟨hmem, hentries⟩ := List.mem_filter.mp hc
      exact hand c hmem hentries
    rw [hmarked, keeps_withConditions he hconnectors, Bool.and_eq_true, List.all_eq_true]
    refine and_congr_right fun _ => ⟨fun h c hc hentries => ?_, fun h c hc => ?_⟩
    · have hkeeps := h c (List.mem_filter.mpr ⟨hc, hentries⟩)
      exact ⟨isComplex_of_keeps_boundOr hkeeps, hkeeps⟩
    · obtain ⟨hmem, hentries⟩ := List.mem_filter.mp hc
      exact (h c hmem hentries).2

/-! ## A history -/

/-- What the providers are asked in an operation. -/
def Operation.inquiries (q : Query) : Operation → List Inquiry
  | global m scene source => (m.watch scene source q).2
  | _ => []

/-- The operations of a history that are no merges of global conditions. -/
def withoutGlobal (history : List Operation) : List Operation :=
  history.filter (!·.isGlobal)

namespace Query

/-- What the providers are asked in a history. -/
def inquiries (q : Query) : List Operation → List Inquiry
  | [] => []
  | op :: later => op.inquiries q ++ (op.outcome q).2.inquiries later

variable {q : Query} {op : Operation} {before later history : List Operation}
  {m : Manager} {scene : UsageScene} {source : Option String}

theorem inquiries_append (q : Query) (before later : List Operation) :
    q.inquiries (before ++ later) = q.inquiries before ++ (q.after before).inquiries later := by
  induction before generalizing q with
  | nil => rfl
  | cons op rest ih =>
    rw [List.cons_append, inquiries, inquiries, ih, List.append_assoc]
    rfl

theorem after_append (q : Query) (before later : List Operation) :
    q.after (before ++ later) = (q.after before).after later :=
  List.foldl_append

theorem steps_of_not_global (h : op.isGlobal = false) :
    Steps (fun _ => True) q (op.outcome q).2 :=
  op.steps h (fun _ _ => trivial) (fun _ _ => trivial)

theorem inquiries_of_not_global (h : op.isGlobal = false) : op.inquiries q = [] := by
  cases op with
  | global => cases h
  | _ => rfl

/-- A call that finds the query marked or unbound is as good as none. -/
theorem after_cons_idle (hidle : q.settings.globalApplied = true ∨ q.entity = none) (m : Manager)
    (scene : UsageScene) (source : Option String) (later : List Operation) :
    q.after (.global m scene source :: later) = q.after later := by
  have houtcome : ((Operation.global m scene source).outcome q).2 = q :=
    Manager.applyGlobal_of_idle hidle
  rw [after, List.foldl_cons, houtcome, after]

/-- A history that passes as if no global conditions were ever applied. -/
structure Unmerged (q : Query) (history : List Operation) : Prop where
  inquiries : q.inquiries history = []
  after : q.after history = q.after (withoutGlobal history)
  globalApplied : (q.after history).settings.globalApplied = q.settings.globalApplied
  entries : q.entries <+: (q.after history).entries

namespace Unmerged

theorem nil (q : Query) : q.Unmerged [] :=
  ⟨rfl, rfl, rfl, List.prefix_rfl⟩

/-- An operation of another kind keeps the mark and the entries. -/
theorem cons_other (hop : op.isGlobal = false) (h : (op.outcome q).2.Unmerged later) :
    q.Unmerged (op :: later) := by
  have hsteps := steps_of_not_global (q := q) hop
  have hwithout : withoutGlobal (op :: later) = op :: withoutGlobal later := by
    rw [withoutGlobal, List.filter_cons_of_pos (by rw [hop]; rfl), withoutGlobal]
  refine ⟨?_, ?_, ?_, ?_⟩
  · rw [Query.inquiries, inquiries_of_not_global hop, h.inquiries, List.append_nil]
  · rw [hwithout]
    exact h.after
  · exact h.globalApplied.trans hsteps.globalApplied_eq
  · exact hsteps.entries_prefix.trans h.entries

theorem cons_idle (hidle : q.settings.globalApplied = true ∨ q.entity = none)
    (h : q.Unmerged later) : q.Unmerged (.global m scene source :: later) := by
  have hafter := q.after_cons_idle hidle m scene source later
  have hasked : (Operation.global m scene source).inquiries q = [] := by
    rw [Operation.inquiries, Manager.watch_of_idle hidle]
  have houtcome : ((Operation.global m scene source).outcome q).2 = q :=
    q.after_cons_idle hidle m scene source []
  refine ⟨?_, ?_, ?_, ?_⟩
  · rw [Query.inquiries, hasked, houtcome, h.inquiries, List.append_nil]
  · rw [hafter]
    exact h.after
  · rw [hafter]
    exact h.globalApplied
  · rw [hafter]
    exact h.entries

/-- Nothing more is merged into a marked query. -/
theorem of_marked (hq : q.settings.globalApplied = true) (history : List Operation) :
    q.Unmerged history := by
  induction history generalizing q with
  | nil => exact nil q
  | cons op later ih =>
    cases hop : op.isGlobal with
    | true =>
      obtain ⟨m, scene, source, rfl⟩ := op.eq_global_of_isGlobal hop
      exact cons_idle (.inl hq) (ih hq)
    | false =>
      exact cons_other hop (ih ((steps_of_not_global hop).globalApplied_eq.trans hq))

end Unmerged

/-- A history in which one call merges the global conditions, and passes before and after it as if no
others were applied. -/
structure MergedAt (q : Query) (before : List Operation) (m : Manager) (scene : UsageScene)
    (source : Option String) (later : List Operation) : Prop where
  unmerged_before : q.Unmerged before
  bound : (q.after before).entity ≠ none
  unmarked : (q.after before).settings.globalApplied = false
  unmerged_later : (m.applyGlobal scene source (q.after before)).Unmerged later
  inquiries : q.inquiries (before ++ .global m scene source :: later) =
    (m.watch scene source (q.after before)).2
  after : q.after (before ++ .global m scene source :: later) =
    (m.applyGlobal scene source (q.after before)).after later

/-- A call on a query that awaits its global conditions is the only one that does anything. -/
theorem MergedAt.of_awaiting {e : EntityType} (hbefore : q.Unmerged before)
    (he : (q.after before).entity = some e)
    (hg : (q.after before).settings.globalApplied = false) (m : Manager) (scene : UsageScene)
    (source : Option String) (later : List Operation) : q.MergedAt before m scene source later := by
  have hmerged := merged_applyGlobal he hg m scene source
  have hlater : (m.applyGlobal scene source (q.after before)).Unmerged later :=
    .of_marked (by rw [hmerged.settings]) later
  refine ⟨hbefore, he ▸ Option.some_ne_none e, hg, hlater, ?_, q.after_append _ _⟩
  rw [inquiries_append, hbefore.inquiries, List.nil_append, Query.inquiries, Operation.inquiries]
  have houtcome : ((Operation.global m scene source).outcome (q.after before)).2 =
      m.applyGlobal scene source (q.after before) := rfl
  rw [houtcome, hlater.inquiries, List.append_nil]

/-- Global conditions are merged at no place of a history, or at one. -/
theorem unmerged_or_mergedAt (q : Query) (history : List Operation) :
    q.Unmerged history ∨ ∃ before m scene source later,
      history = before ++ .global m scene source :: later ∧
        q.MergedAt before m scene source later := by
  -- from the front: after an operation that merges nothing, the rest of the history decides
  induction history generalizing q with
  | nil => exact .inl (.nil q)
  | cons op rest ih =>
    cases hop : op.isGlobal with
    | false =>
      rcases ih (op.outcome q).2 with h | ⟨before, m, scene, source, later, rfl, h⟩
      · exact .inl (.cons_other hop h)
      · obtain ⟨e, he⟩ := Option.ne_none_iff_exists'.mp h.bound
        exact .inr ⟨op :: before, m, scene, source, later, rfl,
          .of_awaiting (.cons_other hop h.unmerged_before) he h.unmarked m scene source later⟩
    | true =>
      obtain ⟨m, scene, source, rfl⟩ := op.eq_global_of_isGlobal hop
      rcases q.idle_or_awaiting with hidle | ⟨e, he, hg⟩
      · rcases ih q with h | ⟨before, m', scene', source', later, rfl, h⟩
        · exact .inl (.cons_idle hidle h)
        · obtain ⟨e, he⟩ := Option.ne_none_iff_exists'.mp h.bound
          have hafter := q.after_cons_idle hidle m scene source before
          exact .inr ⟨.global m scene source :: before, m', scene', source', later, rfl,
            .of_awaiting (.cons_idle hidle h.unmerged_before) (hafter ▸ he) (hafter ▸ h.unmarked)
              m' scene' source' later⟩
      · exact .inr ⟨[], m, scene, source, rest, rfl, .of_awaiting (.nil q) he hg m scene source rest⟩

/-- A call asks the providers and merges what they return only where the query is bound and has no
mark, and then asks each of them once, in order, about the query as it was. Along a history that
happens at most once, and the merged entries stay. A copy keeps them and the mark, and a light clone
has neither. -/
theorem global_conditions_once (q : Query) :
    (∀ (m : Manager) (scene : UsageScene) (source : Option String),
      (q.settings.globalApplied = true ∨ q.entity = none →
        m.applyGlobal scene source q = q ∧ m.watch scene source q = (q, [])) ∧
      (∀ e, q.entity = some e → q.settings.globalApplied = false →
        m.watch scene source q =
          (m.applyGlobal scene source q, m.providers.map (⟨·, ⟨e, scene, source, q⟩⟩)) ∧
        q.Merged e (m.conditions ⟨e, scene, source, q⟩) (m.applyGlobal scene source q))) ∧
    (∀ history, q.Unmerged history ∨ ∃ before m scene source later,
      history = before ++ .global m scene source :: later ∧
        q.MergedAt before m scene source later) ∧
    (q.deepClone.settings.globalApplied = q.settings.globalApplied ∧
      q.deepClone.entries = q.entries) ∧
    q.lightClone.settings.globalApplied = false ∧ q.lightClone.entries = [] := by
  refine ⟨fun m scene source => ⟨fun hidle => ?_, fun e he hg => ?_⟩, q.unmerged_or_mergedAt, ?_,
    rfl, rfl⟩
  · exact ⟨Manager.applyGlobal_of_idle hidle, Manager.watch_of_idle hidle⟩
  · exact ⟨Manager.watch_of_awaiting he hg, merged_applyGlobal he hg m scene source⟩
  · rw [deepClone_eq]
    exact ⟨rfl, rfl⟩

end Query

/-- Records of the tenant 7. -/
def ofTenant : Query :=
  ((Operation.literal .and "TenantId" .equal (.int 7) none).outcome .empty).2

/-- Restricts every query to the tenant 7. To what is displayed it also adds a condition, which is
empty. -/
def tenants : Manager :=
  (({} : Manager).addProvider fun _ => some ⟨.and, ofTenant⟩).addProvider fun context =>
    if context.scene = .display then some ⟨.or, .empty⟩ else none

/-- Users, with a condition attached as the first with `OR`. -/
def grownUsers : Query :=
  ((Operation.literal .or "Age" .greaterThan (.int 17) none).outcome
    (.forEntity { name := "User" })).2

theorem global_conditions_once_grownUsers :
    (tenants.watch .display none grownUsers).2.map (·.context.query) = [grownUsers, grownUsers] ∧
    (∀ record, (tenants.applyGlobal .display none grownUsers).keeps record = true ↔
      grownUsers.keeps record = true ∧ (ofTenant.boundOr { name := "User" }).keeps record = true) ∧
    tenants.applyGlobal .query none (tenants.applyGlobal .display none grownUsers) =
      tenants.applyGlobal .display none grownUsers := by
  obtain ⟨hcall, -⟩ := grownUsers.global_conditions_once
  obtain ⟨hwatch, hmerged⟩ := (hcall tenants .display none).2 { name := "User" } rfl rfl
  obtain ⟨hagain, -⟩ := (tenants.applyGlobal .display none grownUsers).global_conditions_once
  have hmarked : (tenants.applyGlobal .display none grownUsers).settings.globalApplied = true := by
    rw [hmerged.settings]
  refine ⟨by rw [hwatch]; rfl, fun record => ?_, ((hagain tenants .query none).1 (.inl hmarked)).1⟩
  -- of the two conditions that are returned only the first has entries
  have hconditions : tenants.conditions ⟨{ name := "User" }, .display, none, grownUsers⟩ =
      [⟨.and, ofTenant⟩, ⟨.or, .empty⟩] := rfl
  rw [hconditions] at hmerged
  have hentries : ∀ c ∈ [(⟨.and, ofTenant⟩ : GlobalCondition), ⟨.or, .empty⟩],
      c.hasEntries = true → c = ⟨.and, ofTenant⟩ := by
    intro c hc hentries
    rcases List.mem_cons.mp hc with rfl | hc
    · rfl
    · rw [List.mem_singleton.mp hc] at hentries
      cases hentries
  rw [hmerged.keeps fun c hc he => by rw [hentries c hc he]]
  refine and_congr_right fun _ => ⟨fun h => ?_, fun h c hc he => ?_⟩
  · exact (h _ List.mem_cons_self rfl).2
  · rw [hentries c hc he]
    exact ⟨rfl, h⟩

end RecordQuery
