import RecordQuery.Proofs.Query.WellFormed

/-!
# A deep clone forgets nothing

A deep clone is rebuilt part by part and comes out as the query itself (`deepClone_eq`), so whatever is
done to it later ends as it does on the query. That also takes every value to be known by then, since a
producer may yield another one when it is run again for the copy. It is known: every operation reads a
condition when it attaches it, the remembered equalities included (`Built.settled_of_holds`), and the
queries inside are built by the same operations. `Reachable.deepClone_same` puts this together.
-/

namespace RecordQuery

/-! ## Values that are known -/

/-- A condition that has been read stays as it is, and its producer is not run. -/
theorem Condition.Settled.read {c : Condition} (h : c.Settled) (runs : Nat) :
    c.read runs = (c, runs) := by
  obtain ⟨v, hv, -⟩ := h
  rw [Condition.read, hv]

namespace Query

/-- The query holds a condition, as an entry or among the equalities that it remembers. -/
def Holds (q : Query) (c : Condition) : Prop :=
  (∃ connector, ⟨connector, .condition c⟩ ∈ q.entries) ∨ c ∈ q.summary.equalities

variable {q : Query}

/-- An appended item brings its own equalities, if any. -/
theorem mem_equalities_push {connector : Connector} {item : Item Query} {c : Condition}
    (h : c ∈ (q.push connector item).summary.equalities) :
    c ∈ q.summary.equalities ∨ c ∈ item.summary.equalities := by
  change c ∈ (q.summary.add (q.effective connector) item.summary).equalities at h
  cases hk : q.effective connector with
  | and =>
    rw [hk] at h
    exact List.mem_append.mp h
  | or =>
    rw [hk] at h
    cases h

/-- Every step keeps the equalities settled. -/
theorem Built.settled_of_mem_equalities (h : Built q) :
    ∀ c ∈ q.summary.equalities, c.Settled := by
  induction h with
  | empty =>
    intro c hc
    cases hc
  | condition _ _ d ih =>
    intro c hc
    rcases mem_equalities_push hc with hc | hc
    · exact ih c hc
    · change c ∈ (if d.settled.operator = .equal then [d.settled] else []) at hc
      split at hc
      · rw [List.mem_singleton.mp hc]
        exact d.settled_spec
      · cases hc
  | tree _ _ _ ih iht =>
    intro c hc
    rcases mem_equalities_push hc with hc | hc
    · exact ih c hc
    · exact iht c hc
  | subquery _ _ _ _ ih =>
    intro c hc
    rcases mem_equalities_push hc with hc | hc
    · exact ih c hc
    · cases hc
  | join _ _ _ _ _ _ _ _ ih => exact ih
  | combine _ _ _ ih => exact ih
  | recurve _ _ ih => exact ih
  | adjust _ _ ih => exact ih

/-- The conditions that a built query holds have been read. -/
theorem Built.settled_of_holds {c : Condition} (h : Built q) (hc : q.Holds c) : c.Settled := by
  rcases hc with ⟨connector, hc⟩ | hc
  · exact h.wellFormed.condition connector c hc
  · exact h.settled_of_mem_equalities c hc

/-! ## Later operations -/

/-- What a history shows on a query: of each operation the error that it ends with, if any, and the
query after it. -/
def responses (q : Query) : List Operation → List (Option QueryError × Query)
  | [] => []
  | op :: later => op.outcome q :: (op.outcome q).2.responses later

end Query

/-- The queries inside a query that can be had are built. -/
theorem Reachable.built_inside {q p : Query} (h : Reachable q) (hp : q.Inside p) : p.Built := by
  induction hp with
  | refl => exact h.built
  | tail _ hmem ih => exact ih.part hmem

/-- The deep clone of a query that can be had is the same query in all its parts, at every depth. No
condition in it is still to be read, and whatever is done later gives the same on both. -/
theorem Reachable.deepClone_same {q : Query} (h : Reachable q) :
    q.deepClone = q ∧
      (∀ p, q.deepClone.Inside p → ∀ c, p.Holds c → ∀ runs, c.read runs = (c, runs)) ∧
      ∀ history, q.deepClone.responses history = q.responses history := by
  have hsame : q.deepClone = q := q.deepClone_eq
  rw [hsame]
  refine ⟨rfl, fun p hp c hc runs => ?_, fun history => rfl⟩
  exact ((h.built_inside hp).settled_of_holds hc).read runs

/-- Orders of a total that a producer gives, another one on each of its runs. -/
def dearOrders : Query :=
  (Query.forEntity { name := "Order" }).after
    [.criterion .and "Total" .equal (.lazy fun runs => .int (.ofNat runs)) none,
      .queryFields ["Customer"]]

/-- Customers with such orders, which are a subquery, filter a join and are combined with them. -/
def dearCustomers : Query :=
  (Query.forEntity { name := "Customer" }).after
    [.subquery .and "Id" .isIn dearOrders none,
      .join .left .equal [⟨"Id", "Customer"⟩] (.forEntity { name := "Order" }) (some dearOrders),
      .combine .union dearOrders]

theorem deepClone_same_dearCustomers :
    Reachable dearCustomers ∧ dearCustomers.deepClone = dearCustomers ∧
      (dearOrders.summary.equalities ≠ [] ∧ dearCustomers.deepClone.Inside dearOrders ∧
        ∀ c ∈ dearOrders.summary.equalities, c.value = .int 0 ∧ c.read 7 = (c, 7)) ∧
      dearCustomers.deepClone.responses [.entity { name := "Customer" }] =
        dearCustomers.responses [.entity { name := "Customer" }] := by
  have ho : Reachable dearOrders := .perform (.perform (.forEntity _) nofun) nofun
  have hjoined : ∀ a ∈ [Query.forEntity { name := "Order" }, dearOrders], Reachable a := by
    intro a ha
    obtain rfl | rfl : a = .forEntity { name := "Order" } ∨ a = dearOrders := by simpa using ha
    · exact .forEntity _
    · exact ho
  have hc : Reachable dearCustomers :=
    .perform (.perform (.perform (.forEntity _) fun a ha => List.mem_singleton.mp ha ▸ ho) hjoined)
      fun a ha => List.mem_singleton.mp ha ▸ ho
  have hin : dearCustomers.deepClone.Inside dearOrders := by
    rw [dearCustomers.deepClone_eq]
    exact .single (List.mem_append_right _ (List.mem_singleton_self dearOrders))
  obtain ⟨hsame, hread, hresponses⟩ := hc.deepClone_same
  refine ⟨hc, hsame, ⟨List.cons_ne_nil _ _, hin, fun c hmem => ⟨?_, ?_⟩⟩, hresponses _⟩
  · rw [List.mem_singleton.mp hmem]
    rfl
  · exact hread dearOrders hin c (.inr hmem) 7

end RecordQuery
