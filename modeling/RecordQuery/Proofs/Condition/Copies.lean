import Mathlib.Data.List.Nodup
import RecordQuery.Condition.Family

/-!
# A value is produced once

A condition whose value has to be produced is looked at and copied, and so are its copies, in any
order. The history of these looks alone says which members have their value by then (`Resolved`) and
which of them were read when they had none (`FirstRead`). An `Account` says what the history shows and
does: a member has one value in all looks at it (`Shown`), the producer has run once for each first
read (`Produced`), and nothing else has changed (`Members`). `exists_account` gives every history its
account. The values in it are found as the history goes: a look may give a member its value while
that member is not `Resolved`, and then no look so far has shown it.
-/

namespace RecordQuery.Family

variable {c d : Condition} {f : Family} {look : Look} {before history : List (Look × Nat)}
  {i j : Nat}

/-! ## Histories -/

/-- Whether a look reads the value of a condition with an operator. -/
def Look.Resolves (look : Look) (operator : Comparison) : Prop :=
  match look with
  | .value | .json => True
  | .text => operator ≠ .isNull ∧ operator ≠ .notNull
  | .converter | .clone => False

/-- How many members a look adds. -/
def Look.copies : Look → Nat
  | .clone => 1
  | _ => 0

/-- How many members there are after looks at them, the latest first. -/
def sizeAfter : List (Look × Nat) → Nat
  | [] => 1
  | (look, _) :: before => sizeAfter before + look.copies

/-- Looks at members that are there, the latest first. -/
def InFamily : List (Look × Nat) → Prop
  | [] => True
  | (_, i) :: before => i < sizeAfter before ∧ InFamily before

/-- The family that a condition becomes by looks at its members, the latest first. -/
def grown? (c : Condition) : List (Look × Nat) → Option Family
  | [] => some ⟨[c], 0⟩
  | (look, i) :: before => do
    let f ← grown? c before
    let (_, f) ← f.look? look i
    pure f

/-- The members that have their value after looks at them, the latest first. -/
inductive Resolved (operator : Comparison) : List (Look × Nat) → Nat → Prop
  | read {look : Look} {i : Nat} {before : List (Look × Nat)} :
    look.Resolves operator → Resolved operator ((look, i) :: before) i
  /-- A copy has the value of its source, if that had one. -/
  | copied {i : Nat} {before : List (Look × Nat)} :
    Resolved operator before i → Resolved operator ((.clone, i) :: before) (sizeAfter before)
  | kept {last : Look × Nat} {before : List (Look × Nat)} {j : Nat} :
    Resolved operator before j → Resolved operator (last :: before) j

/-- The members that were read when they did not have their value. -/
def FirstRead (operator : Comparison) (history : List (Look × Nat)) (i : Nat) : Prop :=
  ∃ look before, (look, i) :: before <:+ history ∧ look.Resolves operator ∧
    ¬Resolved operator before i

/-- What has been seen of members with these values. -/
structure Shown (c : Condition) (history : List (Look × Nat)) (value : Nat → Value) : Prop where
  /-- A member looks as if its value had been written down. The producer runs in a look that reads the
  value of a member without one, and in no other look. -/
  look : ∀ look i before, (look, i) :: before <:+ history →
    ∃ f f', grown? c before = some f ∧
      f.look? look i = some (look.sight (sizeAfter ((look, i) :: before))
        { c with operand := .literal (value i) }, f') ∧
      (f'.runs ≠ f.runs ↔ look.Resolves c.operator ∧ ¬Resolved c.operator before i)
  copy : ∀ i before, (.clone, i) :: before <:+ history → Resolved c.operator before i →
    value (sizeAfter before) = value i ∧ ¬FirstRead c.operator history (sizeAfter before)

/-- How often the producer has run, and for which members, in this order. -/
structure Produced (operator : Comparison) (produce : Nat → Value) (history : List (Look × Nat))
    (runs : Nat) (value : Nat → Value) (firsts : List Nat) : Prop where
  runs_eq : runs = firsts.length
  nodup : firsts.Nodup
  mem_iff : ∀ i, i ∈ firsts ↔ FirstRead operator history i
  value_eq : ∀ run i, firsts[run]? = some i → value i = produce run

/-- The members after a history. -/
structure Members (c : Condition) (history : List (Look × Nat)) (members : List Condition)
    (value : Nat → Value) : Prop where
  length_eq : members.length = sizeAfter history
  resolved : ∀ i, Resolved c.operator history i →
    members[i]? = some { c with resolved := some (value i) }
  unresolved : ∀ i < sizeAfter history, ¬Resolved c.operator history i → members[i]? = some c

/-- All that a history does. -/
structure Account (c : Condition) (produce : Nat → Value) (history : List (Look × Nat)) (f : Family)
    (value : Nat → Value) (firsts : List Nat) : Prop where
  grown : grown? c history = some f
  shown : Shown c history value
  produced : Produced c.operator produce history f.runs value firsts
  members : Members c history f.members value

theorem Resolved.lt_sizeAfter {operator : Comparison} (h : Resolved operator history j)
    (hin : InFamily history) : j < sizeAfter history := by
  induction h with
  | read => exact Nat.lt_add_right _ hin.1
  | copied => exact Nat.lt_add_one _
  | kept _ ih => exact Nat.lt_add_right _ (ih hin.2)

theorem Resolved.of_suffix {operator : Comparison} (h : Resolved operator before j)
    (hs : before <:+ history) : Resolved operator history j := by
  obtain ⟨later, rfl⟩ := hs
  induction later with
  | nil => exact h
  | cons last later ih => exact .kept ih

theorem resolved_cons {operator : Comparison} :
    Resolved operator ((look, i) :: before) j ↔
      (j = i ∧ look.Resolves operator) ∨
        (look = .clone ∧ j = sizeAfter before ∧ Resolved operator before i) ∨
          Resolved operator before j := by
  constructor
  · intro h
    cases h with
    | read h => exact .inl ⟨rfl, h⟩
    | copied h => exact .inr (.inl ⟨rfl, rfl, h⟩)
    | kept h => exact .inr (.inr h)
  · rintro (⟨rfl, h⟩ | ⟨rfl, rfl, h⟩ | h)
    · exact .read h
    · exact .copied h
    · exact .kept h

theorem firstRead_cons {operator : Comparison} :
    FirstRead operator ((look, i) :: before) j ↔
      (j = i ∧ look.Resolves operator ∧ ¬Resolved operator before i) ∨
        FirstRead operator before j := by
  simp only [FirstRead, List.suffix_cons_iff, List.cons.injEq, Prod.mk.injEq]
  constructor
  · rintro ⟨_, _, ⟨⟨rfl, rfl⟩, rfl⟩ | hs, hreads, hnot⟩
    · exact .inl ⟨rfl, hreads, hnot⟩
    · exact .inr ⟨_, _, hs, hreads, hnot⟩
  · rintro (⟨rfl, hreads, hnot⟩ | ⟨_, _, hs, hreads, hnot⟩)
    · exact ⟨_, _, .inl ⟨⟨rfl, rfl⟩, rfl⟩, hreads, hnot⟩
    · exact ⟨_, _, .inr hs, hreads, hnot⟩

theorem FirstRead.resolved {operator : Comparison} (h : FirstRead operator history i) :
    Resolved operator history i := by
  obtain ⟨_, _, hs, hreads, _⟩ := h
  exact (Resolved.read hreads).of_suffix hs

/-! ## One look -/

theorem Look.Resolves.ne_clone {operator : Comparison} (h : look.Resolves operator) :
    look ≠ .clone := by
  rintro rfl
  exact h

theorem Look.copies_eq_zero (h : look ≠ .clone) : look.copies = 0 := by
  cases look with
  | clone => exact absurd rfl h
  | _ => rfl

theorem sizeAfter_cons (h : look ≠ .clone) : sizeAfter ((look, i) :: before) = sizeAfter before := by
  rw [sizeAfter, Look.copies_eq_zero h, Nat.add_zero]

theorem Look.reads_iff : look.reads c = true ↔ look.Resolves c.operator := by
  cases look with
  | text =>
    rw [Look.reads, Condition.showsValue, Look.Resolves]
    cases c.operator <;> decide
  | _ => simp [Look.reads, Look.Resolves]

/-- Only a look that reads the value shows it. -/
theorem Look.sight_congr (size : Nat) (hfield : d.field = c.field)
    (hoperator : d.operator = c.operator) (hconverter : d.converter = c.converter)
    (hvalue : look.Resolves c.operator → d.value = c.value) :
    look.sight size d = look.sight size c := by
  cases look with
  | value => rw [Look.sight, Look.sight, hvalue trivial]
  | json =>
    rw [Look.sight, Look.sight, Condition.toJson, Condition.toJson, hfield, hoperator, hconverter,
      hvalue trivial]
  | converter => rw [Look.sight, Look.sight, hconverter]
  | clone => rfl
  | text =>
    have hshows : d.showsValue = c.showsValue := by
      rw [Condition.showsValue, Condition.showsValue, hoperator]
    rw [Look.sight, Look.sight, Condition.text, Condition.text, hfield, hoperator, hshows]
    cases h : c.showsValue with
    | false => rfl
    | true => rw [hvalue (Look.reads_iff.mp h)]

theorem value_literal (hresolved : c.resolved = none) (v : Value) :
    { c with operand := .literal v }.value = v := by
  rw [Condition.value, Condition.valueAfter, hresolved]
  rfl

theorem look?_eq (hc : f.members[i]? = some c) : f.look? look i =
    let (d, runs) := if look.reads c then c.read f.runs else (c, f.runs)
    let members := match look with
      | .clone => f.members.set i d ++ [d]
      | _ => f.members.set i d
    some (look.sight members.length d, ⟨members, runs⟩) := by
  cases look <;> simp only [look?, hc]

theorem look?_clone (hc : f.members[i]? = some c) :
    f.look? .clone i = some (.size (f.members.length + 1), ⟨f.members ++ [c], f.runs⟩) := by
  obtain ⟨hi, rfl⟩ := List.getElem?_eq_some_iff.mp hc
  simp [look?_eq hc, Look.reads, Look.sight]

/-- A look that reads nothing new changes nothing. -/
theorem look?_idle (hc : f.members[i]? = some c) (hlook : look ≠ .clone)
    (hidle : look.Resolves c.operator → c.resolved ≠ none) :
    f.look? look i = some (look.sight f.members.length c, f) := by
  have hread : (if look.reads c then c.read f.runs else (c, f.runs)) = (c, f.runs) := by
    by_cases hreads : look.reads c = true
    · obtain ⟨v, hv⟩ := Option.ne_none_iff_exists'.mp (hidle (Look.reads_iff.mp hreads))
      rw [if_pos hreads, Condition.read, hv]
    · rw [if_neg hreads]
  obtain ⟨hi, rfl⟩ := List.getElem?_eq_some_iff.mp hc
  rw [look?_eq hc, hread]
  cases look with
  | clone => exact absurd rfl hlook
  | _ => simp

theorem look?_first {produce : Nat → Value} (hc : f.members[i]? = some c)
    (hreads : look.Resolves c.operator) (hoperand : c.operand = .lazy produce)
    (hresolved : c.resolved = none) :
    f.look? look i =
      some (look.sight f.members.length { c with resolved := some (produce f.runs) },
        ⟨f.members.set i { c with resolved := some (produce f.runs) }, f.runs + 1⟩) := by
  have hread : (if look.reads c then c.read f.runs else (c, f.runs)) =
      ({ c with resolved := some (produce f.runs) }, f.runs + 1) := by
    rw [if_pos (Look.reads_iff.mpr hreads), Condition.read, hresolved, hoperand]
    rfl
  have hlook := hreads.ne_clone
  rw [look?_eq hc, hread]
  cases look with
  | clone => exact absurd rfl hlook
  | _ => simp

/-! ## All looks -/

/-- A copy of a member with a value is never read first. -/
theorem not_firstRead_copy {operator : Comparison} (hin : InFamily history)
    (hs : (.clone, i) :: before <:+ history) (hresolved : Resolved operator before i) :
    ¬FirstRead operator history (sizeAfter before) := by
  induction history with
  | nil => exact absurd (List.suffix_nil.mp hs) (List.cons_ne_nil _ _)
  | cons last rest ih =>
    intro hfirst
    rcases List.suffix_cons_iff.mp hs with heq | hs
    · obtain ⟨rfl, rfl⟩ := List.cons_eq_cons.mp heq
      -- before it was made nothing read it
      rcases firstRead_cons.mp hfirst with ⟨-, hreads, -⟩ | hfirst
      · exact hreads
      · exact Nat.lt_irrefl _ (hfirst.resolved.lt_sizeAfter hin.2)
    · rcases firstRead_cons.mp hfirst with ⟨heq, -, hnot⟩ | hfirst
      · exact hnot (heq ▸ (Resolved.copied hresolved).of_suffix hs)
      · exact ih hin.2 hs hfirst

theorem not_firstRead_nil {operator : Comparison} : ¬FirstRead operator [] i := by
  rintro ⟨_, _, hs, -⟩
  exact absurd (List.suffix_nil.mp hs) (List.cons_ne_nil _ _)

variable {members : List Condition} {produce value value' : Nat → Value} {firsts : List Nat}
  {runs : Nat}

namespace Shown

theorem nil (c : Condition) (value : Nat → Value) : Shown c [] value where
  look _ _ _ hs := absurd (List.suffix_nil.mp hs) (List.cons_ne_nil _ _)
  copy _ _ hs := absurd (List.suffix_nil.mp hs) (List.cons_ne_nil _ _)

/-- One more look. What has been seen depends on the values of those members only that have one. -/
theorem cons (h : Shown c before value) (hin : InFamily ((look, i) :: before))
    (hvalue : ∀ j, Resolved c.operator before j → value' j = value j)
    (hf : grown? c before = some f) {sight : Sight} {f' : Family}
    (hlook : f.look? look i = some (sight, f'))
    (hsight : sight = look.sight (sizeAfter ((look, i) :: before))
      { c with operand := .literal (value' i) })
    (hruns : f'.runs ≠ f.runs ↔ look.Resolves c.operator ∧ ¬Resolved c.operator before i)
    (hcopy : look = .clone → Resolved c.operator before i → value' (sizeAfter before) = value' i) :
    Shown c ((look, i) :: before) value' where
  look l j earlier hs := by
    rcases List.suffix_cons_iff.mp hs with heq | hs
    · obtain ⟨⟨⟩, rfl⟩ := List.cons_eq_cons.mp heq
      exact ⟨f, f', hf, hsight ▸ hlook, hruns⟩
    · obtain ⟨g, g', hg, hsight, hran⟩ := h.look l j earlier hs
      have hsame (size : Nat) : l.sight size { c with operand := .literal (value' j) } =
          l.sight size { c with operand := .literal (value j) } := by
        refine Look.sight_congr _ rfl rfl rfl fun hreads => ?_
        rw [hvalue j ((Resolved.read hreads).of_suffix hs)]
      exact ⟨g, g', hg, by rw [hsight, hsame], hran⟩
  copy j earlier hs hj := by
    refine ⟨?_, not_firstRead_copy hin hs hj⟩
    rcases List.suffix_cons_iff.mp hs with heq | hs
    · obtain ⟨⟨⟩, rfl⟩ := List.cons_eq_cons.mp heq
      exact hcopy rfl hj
    · have hsource : Resolved c.operator before j :=
        hj.of_suffix ((List.suffix_cons _ _).trans hs)
      rw [hvalue _ ((Resolved.copied hj).of_suffix hs), hvalue j hsource]
      exact (h.copy j earlier hs hj).1

end Shown

namespace Produced

variable {operator : Comparison}

theorem nil (operator : Comparison) (produce value : Nat → Value) :
    Produced operator produce [] 0 value [] where
  runs_eq := rfl
  nodup := List.nodup_nil
  mem_iff _ := iff_of_false List.not_mem_nil not_firstRead_nil
  value_eq _ _ h := by simp at h

theorem value_eq_of_agree (h : Produced operator produce before runs value firsts)
    (hvalue : ∀ j, Resolved operator before j → value' j = value j) {run : Nat}
    (hj : firsts[run]? = some j) : value' j = produce run := by
  have hfirst := (h.mem_iff j).mp (List.mem_of_getElem? hj)
  rw [hvalue j hfirst.resolved, h.value_eq run j hj]

theorem cons_other (h : Produced operator produce before runs value firsts)
    (hvalue : ∀ j, Resolved operator before j → value' j = value j)
    (hother : look.Resolves operator → Resolved operator before i) :
    Produced operator produce ((look, i) :: before) runs value' firsts where
  runs_eq := h.runs_eq
  nodup := h.nodup
  mem_iff j := by
    rw [h.mem_iff, firstRead_cons, or_iff_right]
    exact fun ⟨_, hreads, hnot⟩ => hnot (hother hreads)
  value_eq _ _ := h.value_eq_of_agree hvalue

theorem cons_first (h : Produced operator produce before runs value firsts)
    (hvalue : ∀ j, Resolved operator before j → value' j = value j)
    (hreads : look.Resolves operator) (hnot : ¬Resolved operator before i)
    (hi : value' i = produce runs) :
    Produced operator produce ((look, i) :: before) (runs + 1) value' (firsts ++ [i]) where
  runs_eq := by rw [h.runs_eq, List.length_append, List.length_singleton]
  nodup := by
    have hmem : i ∉ firsts := fun hmem => hnot ((h.mem_iff i).mp hmem).resolved
    simpa using h.nodup.concat hmem
  mem_iff j := by
    rw [List.mem_append, List.mem_singleton, h.mem_iff, firstRead_cons, or_comm,
      and_iff_left ⟨hreads, hnot⟩]
  value_eq run j hj := by
    obtain ⟨hlt, -⟩ := List.getElem?_eq_some_iff.mp hj
    rw [List.length_append, List.length_singleton] at hlt
    rcases Nat.lt_succ_iff_lt_or_eq.mp hlt with hlt | rfl
    · rw [List.getElem?_append_left hlt] at hj
      exact h.value_eq_of_agree hvalue hj
    · rw [List.getElem?_concat_length, Option.some.injEq] at hj
      rw [← hj, hi, h.runs_eq]

end Produced

namespace Members

theorem nil (c : Condition) (value : Nat → Value) : Members c [] [c] value where
  length_eq := rfl
  resolved _ h := nomatch h
  unresolved i hi _ := by
    obtain rfl : i = 0 := Nat.lt_one_iff.mp hi
    rfl

theorem eq_of_resolved (h : Members c before members value) (hj : Resolved c.operator before j)
    (hc : members[j]? = some d) : d = { c with resolved := some (value j) } :=
  Option.some.inj (hc.symm.trans (h.resolved j hj))

theorem eq_of_unresolved (h : Members c before members value) (hj : ¬Resolved c.operator before j)
    (hc : members[j]? = some d) : d = c := by
  obtain ⟨hlt, -⟩ := List.getElem?_eq_some_iff.mp hc
  exact Option.some.inj (hc.symm.trans (h.unresolved j (h.length_eq ▸ hlt) hj))

theorem cons_idle (h : Members c before members value) (hlook : look ≠ .clone)
    (hidle : look.Resolves c.operator → Resolved c.operator before i) :
    Members c ((look, i) :: before) members value := by
  have hsize : sizeAfter ((look, i) :: before) = sizeAfter before := sizeAfter_cons hlook
  have hsame : ∀ j, Resolved c.operator ((look, i) :: before) j ↔ Resolved c.operator before j := by
    intro j
    rw [resolved_cons]
    constructor
    · rintro (⟨rfl, hreads⟩ | ⟨hclone, -⟩ | hj)
      · exact hidle hreads
      · exact absurd hclone hlook
      · exact hj
    · exact fun hj => .inr (.inr hj)
  refine ⟨?_, ?_, ?_⟩
  · rw [h.length_eq, hsize]
  · intro j hj
    exact h.resolved j ((hsame j).mp hj)
  · intro j hj hnot
    exact h.unresolved j (hsize ▸ hj) (mt (hsame j).mpr hnot)

theorem cons_clone (h : Members c before members value) (hin : InFamily before)
    (hd : members[i]? = some d) :
    Members c ((.clone, i) :: before) (members ++ [d])
      (Function.update value (sizeAfter before) (value i)) := by
  refine ⟨?_, ?_, ?_⟩
  · rw [List.length_append, h.length_eq]
    rfl
  · intro j hj
    rcases resolved_cons.mp hj with ⟨-, hreads⟩ | ⟨-, rfl, hi⟩ | hj
    · exact absurd hreads id
    · rw [← h.length_eq, List.getElem?_concat_length, h.eq_of_resolved hi hd, h.length_eq,
        Function.update_self]
    · have hlt := hj.lt_sizeAfter hin
      rw [List.getElem?_append_left (h.length_eq ▸ hlt), h.resolved j hj,
        Function.update_of_ne (Nat.ne_of_lt hlt)]
  · intro j hj hnot
    rcases Nat.lt_succ_iff_lt_or_eq.mp hj with hlt | rfl
    · rw [List.getElem?_append_left (h.length_eq ▸ hlt)]
      exact h.unresolved j hlt fun hj => hnot (.kept hj)
    · rw [← h.length_eq, List.getElem?_concat_length,
        h.eq_of_unresolved (fun hi => hnot (.copied hi)) hd]

theorem cons_first (h : Members c before members value) (hi : i < sizeAfter before)
    (hreads : look.Resolves c.operator) (v : Value) :
    Members c ((look, i) :: before) (members.set i { c with resolved := some v })
      (Function.update value i v) := by
  have hsize : sizeAfter ((look, i) :: before) = sizeAfter before := sizeAfter_cons hreads.ne_clone
  refine ⟨?_, ?_, ?_⟩
  · rw [List.length_set, h.length_eq, hsize]
  · intro j hj
    by_cases hji : j = i
    · subst hji
      rw [List.getElem?_set_self (h.length_eq ▸ hi), Function.update_self]
    · rw [List.getElem?_set_ne (Ne.symm hji), Function.update_of_ne hji]
      rcases resolved_cons.mp hj with ⟨heq, -⟩ | ⟨hclone, -⟩ | hj
      · exact absurd heq hji
      · exact absurd hclone hreads.ne_clone
      · exact h.resolved j hj
  · intro j hj hnot
    have hji : i ≠ j := fun heq => hnot (heq ▸ .read hreads)
    rw [List.getElem?_set_ne hji]
    exact h.unresolved j (hsize ▸ hj) fun hj => hnot (.kept hj)

end Members

namespace Account

theorem nil (c : Condition) (produce value : Nat → Value) :
    Account c produce [] ⟨[c], 0⟩ value [] :=
  ⟨rfl, .nil _ _, .nil _ _ _, .nil _ _⟩

/-- The member at an index that there is. -/
theorem exists_member (h : Account c produce before f value firsts) (hi : i < sizeAfter before) :
    ∃ d, f.members[i]? = some d :=
  ⟨_, List.getElem?_eq_getElem (h.members.length_eq ▸ hi)⟩

theorem grown_cons (h : Account c produce before f value firsts) {sight : Sight} {f' : Family}
    (hlook : f.look? look i = some (sight, f')) : grown? c ((look, i) :: before) = some f' := by
  rw [grown?, h.grown]
  simp [hlook]

/-- A look that reads a member first runs the producer. -/
theorem cons_first (h : Account c produce before f value firsts)
    (hin : InFamily ((look, i) :: before)) (hoperand : c.operand = .lazy produce)
    (hresolved : c.resolved = none) (hreads : look.Resolves c.operator)
    (hnot : ¬Resolved c.operator before i) :
    Account c produce ((look, i) :: before)
      ⟨f.members.set i { c with resolved := some (produce f.runs) }, f.runs + 1⟩
      (Function.update value i (produce f.runs)) (firsts ++ [i]) := by
  obtain ⟨d, hd⟩ := h.exists_member hin.1
  obtain rfl := h.members.eq_of_unresolved hnot hd
  have hlook := look?_first hd hreads hoperand hresolved
  have hmembers := h.members.cons_first hin.1 hreads (produce f.runs)
  have hvalue : ∀ j, Resolved d.operator before j →
      Function.update value i (produce f.runs) j = value j := by
    intro j hj
    refine Function.update_of_ne ?_ _ _
    rintro rfl
    exact hnot hj
  refine ⟨h.grown_cons hlook, h.shown.cons hin hvalue h.grown hlook ?_ ?_ ?_,
    h.produced.cons_first hvalue hreads hnot (Function.update_self _ _ _), hmembers⟩
  · rw [← hmembers.length_eq, List.length_set, Function.update_self]
    refine Look.sight_congr _ rfl rfl rfl fun _ => ?_
    exact (value_literal hresolved _).symm
  · exact iff_of_true (Nat.succ_ne_self _) ⟨hreads, hnot⟩
  · exact (absurd · hreads.ne_clone)

theorem cons_clone (h : Account c produce before f value firsts)
    (hin : InFamily ((.clone, i) :: before)) {d : Condition} (hd : f.members[i]? = some d) :
    Account c produce ((.clone, i) :: before) ⟨f.members ++ [d], f.runs⟩
      (Function.update value (sizeAfter before) (value i)) firsts := by
  have hlook := look?_clone hd
  have hvalue : ∀ j < sizeAfter before,
      Function.update value (sizeAfter before) (value i) j = value j := fun j hj =>
    Function.update_of_ne (Nat.ne_of_lt hj) _ _
  have hkept : ∀ j, Resolved c.operator before j →
      Function.update value (sizeAfter before) (value i) j = value j := fun j hj =>
    hvalue j (hj.lt_sizeAfter hin.2)
  refine ⟨h.grown_cons hlook, h.shown.cons hin hkept h.grown hlook ?_ ?_ ?_,
    h.produced.cons_other hkept (absurd · id), h.members.cons_clone hin.2 hd⟩
  · rw [h.members.length_eq]
    rfl
  · exact iff_of_false (fun hne => hne rfl) fun ⟨hreads, _⟩ => hreads
  · intro _ _
    rw [Function.update_self, hvalue i hin.1]

/-- A look that reads nothing new. -/
theorem cons_idle (h : Account c produce before f value firsts)
    (hin : InFamily ((look, i) :: before)) (hresolved : c.resolved = none) (hlook : look ≠ .clone)
    (hidle : look.Resolves c.operator → Resolved c.operator before i) :
    Account c produce ((look, i) :: before) f value firsts := by
  obtain ⟨d, hd⟩ := h.exists_member hin.1
  obtain ⟨hread, hsight⟩ : (look.Resolves d.operator → d.resolved ≠ none) ∧
      look.sight f.members.length d =
        look.sight f.members.length { c with operand := .literal (value i) } := by
    by_cases hi : Resolved c.operator before i
    · obtain rfl := h.members.eq_of_resolved hi hd
      refine ⟨fun _ => Option.some_ne_none _, Look.sight_congr _ rfl rfl rfl fun _ => ?_⟩
      exact (value_literal hresolved _).symm
    · obtain rfl := h.members.eq_of_unresolved hi hd
      have hnot := mt hidle hi
      exact ⟨(absurd · hnot), Look.sight_congr _ rfl rfl rfl (absurd · hnot)⟩
  have hmembers := h.members.cons_idle hlook hidle
  have hsame := look?_idle hd hlook hread
  refine ⟨h.grown_cons hsame, h.shown.cons hin (fun _ _ => rfl) h.grown hsame ?_ ?_ ?_,
    h.produced.cons_other (fun _ _ => rfl) hidle, hmembers⟩
  · rw [hsight, hmembers.length_eq]
  · exact iff_of_false (fun hne => hne rfl) fun ⟨hreads, hnot⟩ => hnot (hidle hreads)
  · exact (absurd · hlook)

end Account

/-- Looks at a condition whose value has to be produced, and at its copies, in any order: a member
has one value in all of them, a copy of a member with a value has that value, and the producer has run
once for each first read. -/
theorem exists_account (hoperand : c.operand = .lazy produce) (hresolved : c.resolved = none)
    (hin : InFamily history) : ∃ f value firsts, Account c produce history f value firsts := by
  induction history with
  | nil => exact ⟨_, fun _ => .null, _, .nil _ _ _⟩
  | cons last before ih =>
    obtain ⟨look, i⟩ := last
    obtain ⟨f, value, firsts, h⟩ := ih hin.2
    by_cases hidle : look.Resolves c.operator → Resolved c.operator before i
    · by_cases hclone : look = .clone
      · subst hclone
        obtain ⟨d, hd⟩ := h.exists_member hin.1
        exact ⟨_, _, _, h.cons_clone hin hd⟩
      · exact ⟨_, _, _, h.cons_idle hin hresolved hclone hidle⟩
    · obtain ⟨hreads, hnot⟩ := Classical.not_imp.mp hidle
      exact ⟨_, _, _, h.cons_first hin hoperand hresolved hreads hnot⟩

/-- A condition on the number of times that its producer has run before. -/
def counting : Condition :=
  ⟨"Runs", .equal, .lazy fun run => .int (.ofNat run), none, none⟩

/-- Copies made before and after a condition is read, and then read themselves. -/
def copiedTwice : List (Look × Nat) :=
  [(.json, 2), (.value, 1), (.clone, 0), (.text, 0), (.clone, 0)]

theorem exists_account_copiedTwice :
    counting.resolved = none ∧ InFamily copiedTwice ∧
      ∃ f value firsts, Account counting (fun run => .int (.ofNat run)) copiedTwice f value firsts ∧
        f.runs = 2 := by
  have hin : InFamily copiedTwice := by simp [copiedTwice, InFamily, sizeAfter, Look.copies]
  obtain ⟨f, value, firsts, h⟩ := exists_account (c := counting) rfl rfl hin
  have hruns : (grown? counting copiedTwice).map Family.runs = some 2 := rfl
  rw [h.grown] at hruns
  exact ⟨rfl, hin, f, value, firsts, h, Option.some.inj hruns⟩

end RecordQuery.Family
