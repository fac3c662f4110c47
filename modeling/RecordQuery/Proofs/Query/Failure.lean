import RecordQuery.Proofs.Query.WellFormed
import RecordQuery.Proofs.Translation.Faults

/-!
# Operations that fail

`Operation.Fails` lists why an operation on a query fails, each reason with its error. Except for the
join of several queries, which keeps the joins before the one that fails, an operation fails for one of
these reasons and no other, and then leaves the query as it was: `Reachable.fails_exactly`. The proof
runs every operation once (`Operation.answers`). That the counter of the joins says how many there are is
the one thing that it needs to know of the query.
-/

namespace RecordQuery

/-- Why an operation on the query `q` fails, and the error. -/
inductive Operation.Fails (q : Query) : Operation → QueryError → Prop
  | unbound {field : String} (hf : Text.allBlank field = false) (he : q.entity = none)
      (connector : Connector) (operator : Comparison) (query : Query)
      (converter : Option Converter) :
      Fails q (.subquery connector field operator query converter) (.missingEntity (.subquery field))
  | unboundItem (he : q.entity = none) (connector : Connector) (c : SubqueryCondition Query) :
      Fails q (.item connector (.subquery c)) (.missingEntity (.subquery c.field))
  | malformed {l : Lambda} {fault : Malformed} (hl : l.translate = .error (.malformed fault))
      (connector : Connector) : Fails q (.lambda connector l) (.malformed fault)
  | noKey {e : EntityType} (he : e.primaryKeys = []) (record : Record) :
      Fails q (.identity e record) (.missingPrimaryKeys e.name)
  | unboundTarget {target : Query} (ht : target.entity = none) (kind : JoinKind)
      (operator : JoinOperator) (fields : List JoinField) (filter : Option Query) :
      Fails q (.join kind operator fields target filter) (.missingEntity .joinTarget)
  | tooManyJoins {target : Query} (ht : target.entity ≠ none) (hj : q.joins.size = 65535)
      (kind : JoinKind) (operator : JoinOperator) (fields : List JoinField)
      (filter : Option Query) : Fails q (.join kind operator fields target filter) .tooManyJoins
  | blankKey {key relationKey : String}
      (hk : Text.allBlank key = true ∨ Text.allBlank relationKey = true) (direction : Direction) :
      Fails q (.recurve key relationKey direction) (.invalidRecurve .blankKey)
  | sameKey {key : String} (hk : Text.allBlank key = false) (direction : Direction) :
      Fails q (.recurve key key direction) (.invalidRecurve (.sameKey key))

/-- Whether an operation joins several queries one after the other. -/
def Operation.joinsSeveral : Operation → Bool
  | joinAll _ _ _ _ => true
  | _ => false

namespace Query

/-- A program either does its work, where there is no reason to fail, or fails for the one reason that
there is and leaves the query `q` as it was. -/
inductive Answers (q : Query) (reason : QueryError → Prop) :
    EStateM.Result QueryError Query Unit → Prop
  | done (hn : ∀ e, ¬reason e) (q' : Query) : Answers q reason (.ok () q')
  | refused {e : QueryError} (he : reason e) (hu : ∀ e', reason e' → e' = e) :
      Answers q reason (.error e q)

variable {q : Query}

/-! ## One operation after the other -/

/-- What just changes the query does its work. -/
theorem answers_modify {reason : QueryError → Prop} (hn : ∀ e, ¬reason e) (f : Query → Query) :
    q.Answers reason ((modify f : Builder Unit).run q) :=
  .done hn (f q)

theorem answers_item (connector : Connector) (item : Item Query) :
    q.Answers ((Operation.item connector item).Fails q) ((addItem connector item).run q) := by
  rw [run_addItem]
  cases item with
  | condition c => exact .done (fun e' h => by cases h) _
  | tree t => exact .done (fun e' h => by cases h) _
  | subquery c =>
    simp only
    split
    · rename_i he
      refine .refused (.unboundItem he connector c) fun e' h => ?_
      cases h
      rfl
    · rename_i he
      refine .done (fun e' h => ?_) _
      cases h
      contradiction

theorem answers_criterion (connector : Connector) (field : String) (operator : Comparison)
    (operand : Operand) (converter : Option Converter) :
    q.Answers ((Operation.criterion connector field operator operand converter).Fails q)
      ((addCriterion connector field operator operand converter).run q) := by
  rw [run_addCriterion]
  split <;> exact .done (fun e' h => by cases h) _

theorem answers_subquery (connector : Connector) (field : String) (operator : Comparison)
    (query : Query) (converter : Option Converter) :
    q.Answers ((Operation.subquery connector field operator query converter).Fails q)
      ((addSubqueryOn connector field operator query converter).run q) := by
  rw [run_addSubqueryOn]
  split
  · rename_i hf
    refine .done (fun e' h => ?_) _
    cases h with
    | unbound hf' _ => exact absurd hf (Bool.eq_false_iff.mp hf')
  · rename_i hf
    split
    · rename_i he
      refine .refused (.unbound (Bool.eq_false_iff.mpr hf) he ..) fun e' h => ?_
      cases h
      rfl
    · rename_i he
      refine .done (fun e' h => ?_) _
      cases h
      contradiction

theorem answers_lambda (connector : Connector) (l : Lambda) :
    q.Answers ((Operation.lambda connector l).Fails q) ((addLambda connector l).run q) := by
  rw [run_addLambda]
  cases hl : l.translate with
  | error err =>
    obtain ⟨fault, rfl⟩ := l.malformed_of_translate hl
    refine .refused (.malformed hl connector) fun e' h => ?_
    cases h with
    | malformed hl' => exact Except.error.inj (hl'.symm.trans hl)
  | ok entry =>
    -- what a lambda is translated to holds no subquery, so that it can be attached anywhere
    have hitem := (Translation.translates_of_translate l.parameter l.body hl).2.not_subquery
    simp only [run_addItem_of_not_subquery hitem]
    refine .done (fun e' h => ?_) _
    cases h with
    | malformed hl' => cases hl'.symm.trans hl

theorem answers_identity (e : EntityType) (record : Record) :
    q.Answers ((Operation.identity e record).Fails q) ((addIdentity e record).run q) := by
  rw [run_addIdentity]
  split
  · rename_i he
    refine .refused (.noKey he record) fun e' h => ?_
    cases h
    rfl
  · rename_i he
    refine .done (fun e' h => ?_) _
    cases h
    contradiction

theorem answers_join (hj : q.settings.lastJoin = q.joins.size) (kind : JoinKind)
    (operator : JoinOperator) (fields : List JoinField) (target : Query) (filter : Option Query) :
    q.Answers ((Operation.join kind operator fields target filter).Fails q)
      ((join kind operator fields target filter).run q) := by
  rw [run_join, hj]
  split
  · rename_i ht
    refine .refused (.unboundTarget ht ..) fun e' h => ?_
    cases h with
    | unboundTarget => rfl
    | tooManyJoins ht' => exact absurd ht ht'
  · rename_i ht
    split
    · rename_i hm
      refine .refused (.tooManyJoins ht hm ..) fun e' h => ?_
      cases h with
      | unboundTarget ht' => exact absurd ht' ht
      | tooManyJoins => rfl
    · rename_i hm
      refine .done (fun e' h => ?_) _
      cases h with
      | unboundTarget ht' => exact ht ht'
      | tooManyJoins _ hm' => exact hm hm'

theorem answers_recurve (key relationKey : String) (direction : Direction) :
    q.Answers ((Operation.recurve key relationKey direction).Fails q)
      ((setRecurve key relationKey direction).run q) := by
  rw [run_setRecurve, Recurve.make]
  split
  · rename_i fault hmake
    split at hmake
    · rename_i hblank
      cases hmake
      rw [Bool.or_eq_true] at hblank
      refine .refused (.blankKey hblank direction) fun e' h => ?_
      cases h with
      | blankKey => rfl
      | sameKey hk =>
        rw [hk] at hblank
        rcases hblank with hblank | hblank <;> cases hblank
    · rename_i hblank
      rw [Bool.or_eq_true, not_or, Bool.not_eq_true, Bool.not_eq_true] at hblank
      split at hmake
      · rename_i hsame
        subst hsame
        cases hmake
        refine .refused (.sameKey hblank.1 direction) fun e' h => ?_
        cases h with
        | blankKey hk =>
          rw [hblank.1] at hk
          rcases hk with hk | hk <;> cases hk
        | sameKey => rfl
      · cases hmake
  · rename_i recurve hmake
    split at hmake
    · cases hmake
    · rename_i hblank
      split at hmake
      · cases hmake
      · rename_i hsame
        rw [Bool.or_eq_true] at hblank
        refine .done (fun e' h => ?_) _
        cases h with
        | blankKey hk => exact hblank hk
        | sameKey => exact hsame rfl

end Query

/-- Every operation but the join of several queries does its work or is refused as a whole. -/
theorem Operation.answers {q : Query} (hj : q.settings.lastJoin = q.joins.size) {op : Operation}
    (hop : op.joinsSeveral = false) : q.Answers (op.Fails q) (op.perform.run q) := by
  cases op with
  | criterion connector field operator operand converter => exact Query.answers_criterion ..
  | subquery connector field operator query converter => exact Query.answers_subquery ..
  | item connector x => exact Query.answers_item connector x
  | lambda connector l => exact Query.answers_lambda connector l
  | identity e record => exact Query.answers_identity e record
  | join kind operator fields target filter => exact Query.answers_join hj ..
  | joinAll => cases hop
  | recurve key relationKey direction => exact Query.answers_recurve key relationKey direction
  | literal | group | tree | global | combine | orderBy | clearSort | queryFields | notQueryFields
  | clearQueryFields | paging | clearPaging | text | copies | obsolete | entity | token =>
    exact Query.answers_modify (fun e' h => by cases h) _

/-- An operation fails for the reasons that are listed and no others, and leaves the query as it was. -/
theorem Reachable.fails_exactly {q : Query} (h : Reachable q) {op : Operation}
    (hop : op.joinsSeveral = false) (e : QueryError) :
    ((op.outcome q).1 = some e ↔ op.Fails q e) ∧
      ((op.outcome q).1 = some e → (op.outcome q).2 = q) := by
  have hanswers := op.answers h.built.wellFormed.lastJoin hop
  unfold Operation.outcome
  generalize op.perform.run q = result at hanswers
  cases hanswers with
  | done hn q' => exact ⟨⟨nofun, fun he => absurd he (hn e)⟩, nofun⟩
  | refused he hu =>
    refine ⟨⟨fun heq => ?_, fun he' => ?_⟩, fun _ => rfl⟩
    · exact Option.some.inj heq ▸ he
    · rw [hu e he']

/-! ## A query with as many joins as there can be -/

theorem Reachable.after {q : Query} (h : Reachable q) {history : List Operation}
    (ha : ∀ op ∈ history, ∀ p, ∀ a ∈ op.queries p, Reachable a) : Reachable (q.after history) := by
  induction history generalizing q with
  | nil => exact h
  | cons op later ih =>
    have hop := h.perform (ha op List.mem_cons_self q)
    exact ih hop fun op' hop' => ha op' (List.mem_cons_of_mem op hop')

/-- Every user with every user. -/
def crossUsers : Operation :=
  .join .cross .equal [] (.forEntity { name := "User" }) none

/-- Joins are counted as long as there is room for them. -/
theorem Query.size_joins_after_crossUsers {q : Query} (hj : q.settings.lastJoin = q.joins.size)
    {n : Nat} (hn : q.joins.size + n ≤ maxJoins) :
    (q.after (List.replicate n crossUsers)).joins.size = q.joins.size + n := by
  induction n generalizing q with
  | zero => rfl
  | succ n ih =>
    have hroom : q.settings.lastJoin ≠ maxJoins := by omega
    have houtcome : (crossUsers.outcome q).2 =
        q.withJoin .cross .equal [] (.forEntity { name := "User" }) none := by
      rw [outcome_eq_ran, crossUsers, Operation.perform]
      exact ran_of_ok ((run_join ..).trans ((if_neg nofun).trans (if_neg hroom)))
    have hsize : (crossUsers.outcome q).2.joins.size = q.joins.size + 1 := by
      rw [houtcome]
      exact Array.size_push _
    have hlast : (crossUsers.outcome q).2.settings.lastJoin =
        (crossUsers.outcome q).2.joins.size := by
      rw [hsize, houtcome, ← hj]
      rfl
    have hrest := ih hlast (by omega)
    rw [hsize] at hrest
    exact hrest.trans (by omega)

/-- Users joined with themselves until no join is left. -/
def crowdedUsers : Query :=
  (Query.forEntity { name := "User" }).after (List.replicate maxJoins crossUsers)

theorem fails_exactly_crowdedUsers :
    crowdedUsers.joins.size = 65535 ∧
      (crossUsers.outcome crowdedUsers).1 = some .tooManyJoins ∧
      (crossUsers.outcome crowdedUsers).2 = crowdedUsers := by
  have hsize : crowdedUsers.joins.size = 65535 :=
    (Query.size_joins_after_crossUsers rfl (Nat.le_of_eq (Nat.zero_add _))).trans (Nat.zero_add _)
  have hreachable : Reachable crowdedUsers := by
    refine (Reachable.forEntity _).after fun op hop p a ha => ?_
    rw [List.eq_of_mem_replicate hop] at ha
    obtain rfl : a = .forEntity { name := "User" } := List.mem_singleton.mp ha
    exact .forEntity _
  have hbound : (Query.forEntity { name := "User" }).entity ≠ none := Option.some_ne_none _
  have hfull : crossUsers.Fails crowdedUsers .tooManyJoins := .tooManyJoins hbound hsize ..
  have hone : crossUsers.joinsSeveral = false := rfl
  obtain ⟨hfails, hkept⟩ := hreachable.fails_exactly hone .tooManyJoins
  exact ⟨hsize, hfails.mpr hfull, hkept (hfails.mpr hfull)⟩

end RecordQuery
