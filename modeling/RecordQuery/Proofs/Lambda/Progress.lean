import RecordQuery.Proofs.Lambda.Advances

/-!
# The parser ends and makes progress

From any place among the tokens, every reader of the parser ends within a limit on its calls that is in
proportion to the tokens left. It takes at least one of them and leaves the others, or its error is for
the token where it stops, or for their end (`Routine.Progresses`). Three readers are loops: operators
with operands, members and calls, and arguments. What such a reader returns comes from rounds
(`Loops`), and every round takes at least one token. `runs_end_and_advance` puts this together.
-/

namespace RecordQuery.Parser

/-! ## Positions -/

section Positions

variable {t : List Token}

/-- What is left of the tokens from a position on are the tokens from a later one on. -/
theorem exists_position {tokens : List Token} {position : Nat} (h : t <:+ tokens.drop position) :
    ∃ stop, position ≤ stop ∧ stop ≤ max position tokens.length ∧ t = tokens.drop stop := by
  refine ⟨position + ((tokens.drop position).length - t.length), Nat.le_add_right _ _, ?_, ?_⟩
  · rw [List.length_drop]
    omega
  · rw [← List.drop_drop]
    exact List.suffix_iff_eq_drop.mp h

theorem Takes.exists_position {tokens : List Token} {position : Nat}
    (h : Takes (tokens.drop position) t) :
    ∃ next, position < next ∧ next ≤ tokens.length ∧ t = tokens.drop next := by
  have hlt := h.length_lt
  obtain ⟨taken, -, hs⟩ := h
  obtain ⟨next, hle, hnext, rfl⟩ := Parser.exists_position ⟨taken, hs.symm⟩
  rw [List.length_drop, List.length_drop] at hlt
  exact ⟨next, by omega, by omega, rfl⟩

end Positions

/-! ## Loops -/

/-- A loop on what has been read: some rounds, and how it ends. A round gives what is read after it, or
what the loop returns, or an error. -/
inductive Loops {α : Type} (round : α → List Token → Except ParseError (Part α ⊕ Part α)) :
    Nat → Part α → Except ParseError (Part α) → Prop
  | stops {r r' : Part α} (h : round r.value r.rest = .ok (.inr r')) : Loops round 0 r (.ok r')
  | fails {r : Part α} {e : ParseError} (h : round r.value r.rest = .error e) :
    Loops round 0 r (.error e)
  | goesOn {n : Nat} {r r' : Part α} {x : Except ParseError (Part α)}
    (h : round r.value r.rest = .ok (.inl r')) (hl : Loops round n r' x) : Loops round (n + 1) r x

/-- What one round has to do with a reader that returns `x a` where it goes on from `state a`: the round
ends as the reader does, or it gives a state from which the reader returns the same. -/
inductive Turns {α σ : Type} (round : α → List Token → Except ParseError (Part α ⊕ Part α))
    (state : σ → Part α) (x : σ → Except ParseError (Part α)) (a : σ) : Prop
  | stops {r : Part α} (h : round (state a).value (state a).rest = .ok (.inr r)) (hx : x a = .ok r)
  | fails {e : ParseError} (h : round (state a).value (state a).rest = .error e) (hx : x a = .error e)
  | goesOn (b : σ) (h : round (state a).value (state a).rest = .ok (.inl (state b))) (hx : x a = x b)

section Loops

variable {α β σ : Type} {round : α → List Token → Except ParseError (Part α ⊕ Part α)}
variable {state : σ → Part α} {s t : List Token}

/-- A reader is a loop if it does what its first round does and goes on as itself. The loop goes round
at most as often as there are tokens. -/
theorem exists_loops {x : σ → Except ParseError (Part α)}
    (ht : ∀ v s r, round v s = .ok (.inl r) → Takes s r.rest) (h : ∀ a, Turns round state x a) (a : σ) :
    ∃ n, n ≤ (state a).rest.length ∧ Loops round n (state a) (x a) := by
  -- on the tokens that are left, of which every round takes some
  induction hn : (state a).rest.length using Nat.strongRecOn generalizing a with
  | ind m ih =>
    cases h a with
    | stops hr hx => exact ⟨0, Nat.zero_le _, hx ▸ .stops hr⟩
    | fails hr hx => exact ⟨0, Nat.zero_le _, hx ▸ .fails hr⟩
    | goesOn b hr hx =>
      have hlt : (state b).rest.length < m := hn ▸ (ht _ _ _ hr).length_lt
      obtain ⟨n, hle, hloop⟩ := ih _ hlt b rfl
      exact ⟨n + 1, Nat.lt_of_le_of_lt hle hlt, hx ▸ .goesOn hr hloop⟩

/-- A round that reads something and goes on with it. -/
theorem Turns.of_bind {x : σ → Result α s} {y : Result β t} {k : Reading β t → σ} {a : σ}
    (h : round (state a).value (state a).rest = y >>= fun r => .ok (.inl (state (k r))))
    (hx : x a = y >>= fun r => x (k r)) :
    Turns round state (fun a => (x a).map Reading.part) a := by
  cases y with
  | error e => exact .fails h (congrArg (Except.map Reading.part) hx)
  | ok r => exact .goesOn (k r) h (congrArg (Except.map Reading.part) hx)

end Loops

/-! ## Rounds -/

/-- One more operator of the rank above the given one, with its right operand. -/
def operandRound (scope : Scope) (rank : Nat) (left : Expr) (source : List Token) :
    Except ParseError (Part Expr ⊕ Part Expr) :=
  match source with
  | [] => .ok (.inr ⟨left, []⟩)
  | token :: rest =>
    match operator? (rank + 1) token.kind with
    | none => .ok (.inr ⟨left, token :: rest⟩)
    | some op => do
      let right ← binary scope rank rest
      .ok (.inl ⟨.binary op left right.value, right.rest⟩)

/-- One more member or call. -/
def memberRound (scope : Scope) (target : Expr) (source : List Token) :
    Except ParseError (Part Expr ⊕ Part Expr) :=
  match source with
  | ⟨.dot, _⟩ :: ⟨.identifier name, _⟩ :: ⟨.leftParen, _⟩ :: rest => do
    let args ← arguments scope .paren rest
    .ok (.inl ⟨.call target name args.value, args.rest⟩)
  | ⟨.dot, _⟩ :: ⟨.identifier name, _⟩ :: rest => .ok (.inl ⟨.member target name, rest⟩)
  | ⟨.dot, _⟩ :: rest => .error (missing (.identifier "") rest)
  | source => .ok (.inr ⟨target, source⟩)

/-- Behind an argument, the comma before the next one or the closing bracket. -/
def itemEnd (closing : Closing) (row : List Expr) (source : List Token) :
    Except ParseError (Part (List Expr) ⊕ Part (List Expr)) :=
  match source with
  | ⟨.comma, _⟩ :: rest => .ok (.inl ⟨row, rest⟩)
  | source => (Part.close closing ⟨row, source⟩).map .inr

/-- One more argument, with what is behind it. -/
def itemRound (scope : Scope) (closing : Closing) (row : List Expr) (source : List Token) :
    Except ParseError (Part (List Expr) ⊕ Part (List Expr)) := do
  let next ← expression scope source
  itemEnd closing (row ++ [next.value]) next.rest

section Rounds

variable {scope : Scope} {rank : Nat} {closing : Closing} {s : List Token}

theorem takes_operandRound {left : Expr} {r : Part Expr}
    (h : operandRound scope rank left s = .ok (.inl r)) : Takes s r.rest := by
  cases s with
  | nil => cases h
  | cons token rest =>
    rw [operandRound] at h
    split at h
    · cases h
    · obtain ⟨right, hright, h⟩ := bind_eq_ok.mp h
      cases h
      obtain ⟨-, hbinary, -⟩ := advances scope
      exact takes_cons ((hbinary rank rest).took right hright)

theorem takes_memberRound {target : Expr} {r : Part Expr}
    (h : memberRound scope target s = .ok (.inl r)) : Takes s r.rest := by
  unfold memberRound at h
  split at h
  · rename_i a name b c rest
    obtain ⟨args, hargs, h⟩ := bind_eq_ok.mp h
    cases h
    obtain ⟨-, -, -, -, -, harguments, -⟩ := advances scope
    have htook : args.rest <:+ rest := (harguments .paren rest).took args hargs
    exact takes_cons ((htook.trans (List.suffix_cons _ _)).trans (List.suffix_cons _ _))
  · cases h
    exact takes_cons (List.suffix_cons _ _)
  · cases h
  · cases h

theorem rest_of_close {α : Type} {v : α} {r : Part α} (h : Part.close closing ⟨v, s⟩ = .ok r) :
    ∃ a, s = ⟨closing.kind, a⟩ :: r.rest := by
  unfold Part.close at h
  split at h
  · rename_i hat
    obtain ⟨a, rest, rfl⟩ := isAt_iff.mp hat
    cases h
    exact ⟨a, rfl⟩
  · cases h

/-- Behind an argument is a comma, or the bracket that ends the row. -/
theorem rest_of_itemEnd {row : List Expr} {r : Part (List Expr) ⊕ Part (List Expr)}
    (h : itemEnd closing row s = .ok r) :
    (∃ a next, r = .inl next ∧ s = ⟨.comma, a⟩ :: next.rest) ∨
      ∃ a whole, r = .inr whole ∧ s = ⟨closing.kind, a⟩ :: whole.rest := by
  unfold itemEnd at h
  split at h
  · cases h
    exact .inl ⟨_, _, rfl, rfl⟩
  · cases hc : Part.close closing ⟨row, s⟩ with
    | error e =>
      rw [hc] at h
      cases h
    | ok whole =>
      rw [hc] at h
      cases h
      obtain ⟨a, hs⟩ := rest_of_close hc
      exact .inr ⟨a, whole, rfl, hs⟩

/-- The last round of a row takes tokens as well. -/
theorem takes_itemRound {row : List Expr} {r : Part (List Expr) ⊕ Part (List Expr)}
    (h : itemRound scope closing row s = .ok r) : Takes s (r.elim id id).rest := by
  obtain ⟨next, hnext, h⟩ := bind_eq_ok.mp h
  obtain ⟨hexpression, -⟩ := advances scope
  have htook : next.rest <:+ s := (hexpression s).took next hnext
  refine (takes_of_suffix htook next.shorter).trans ?_
  obtain ⟨a, r, rfl, hs⟩ | ⟨a, r, rfl, hs⟩ := rest_of_itemEnd h
  · exact hs ▸ List.suffix_cons _ _
  · exact hs ▸ List.suffix_cons _ _

/-- A binary level stops, or it goes on behind an operator. -/
theorem turns_operands (left : Reading Expr s) :
    Turns (operandRound scope rank) Reading.part
      (fun left : Reading Expr s => (operands scope rank left).map Reading.part) left := by
  have hstop (ho : ∀ token rest, left.rest = token :: rest → operator? (rank + 1) token.kind = none)
      (h : operandRound scope rank left.value left.rest = .ok (.inr left.part)) :
      Turns (operandRound scope rank) Reading.part
        (fun left : Reading Expr s => (operands scope rank left).map Reading.part) left :=
    .stops h (congrArg (Except.map Reading.part) (operands_stop ho))
  cases hr : left.rest with
  | nil =>
    refine hstop (fun token rest h => ?_) ?_
    · rw [hr] at h
      cases h
    · rw [Reading.part, hr, operandRound]
  | cons token rest =>
    cases ho : operator? (rank + 1) token.kind with
    | none =>
      refine hstop (fun token' rest' h => ?_) ?_
      · obtain ⟨rfl, -⟩ := List.cons.inj (hr.symm.trans h)
        exact ho
      · rw [Reading.part, hr, operandRound, ho]
    | some op =>
      refine .of_bind ?_ (operands_next hr ho)
      show operandRound scope rank left.value left.rest = _
      rw [hr, operandRound, ho]
      rfl

/-- Members and calls stop, or they go on behind a dot with a name. -/
theorem turns_members (target : Reading Expr s) :
    Turns (memberRound scope) Reading.part
      (fun target : Reading Expr s => (members scope target).map Reading.part) target := by
  by_cases hd : ∃ a rest, target.rest = ⟨.dot, a⟩ :: rest
  · obtain ⟨a, rest, h⟩ := hd
    have hlt : rest.length < s.length := Reading.tail_shorter h
    rcases behind_dot rest with ⟨n, b, c, t, rfl⟩ | ⟨n, b, u, rfl, hno⟩ | hno
    · refine .of_bind ?_ (members_call h (Nat.lt_of_succ_lt (Nat.lt_of_succ_lt hlt)))
      show memberRound scope target.value target.rest = _
      rw [h, memberRound]
      rfl
    · refine .goesOn _ ?_ (congrArg (Except.map Reading.part)
        (members_member h (Nat.lt_of_succ_lt hlt) hno))
      show memberRound scope target.value target.rest = _
      rw [h, memberRound]
      · rfl
      · exact hno
    · refine .fails ?_ (congrArg (Except.map Reading.part) (members_noName h hno))
      show memberRound scope target.value target.rest = _
      rw [h, memberRound]
      · exact fun n b c t => hno n b _
      · exact hno
  · have hno : ∀ a rest, target.rest ≠ ⟨.dot, a⟩ :: rest := fun a rest hr => hd ⟨a, rest, hr⟩
    refine .stops ?_ (congrArg (Except.map Reading.part) (members_stop hno))
    show memberRound scope target.value target.rest = _
    rw [memberRound]
    · rfl
    · exact fun a _ _ _ rest => hno a _
    · exact fun a _ _ rest => hno a _
    · exact hno

/-- What is done with the value is done before or after the bracket. -/
theorem close_map {α β : Type} (f : α → β) (v : α) :
    Part.close closing ⟨f v, s⟩ =
      (Part.close closing ⟨v, s⟩).map fun r => ⟨f r.value, r.rest⟩ := by
  unfold Part.close
  split <;> rfl

theorem itemEnd_of_not_comma {row : List Expr} (h : ∀ a rest, s ≠ ⟨.comma, a⟩ :: rest) :
    itemEnd closing row s = (Part.close closing ⟨row, s⟩).map .inr := by
  rw [itemEnd]
  exact h

theorem map_items_next {first : Reading Expr s} {a : Span} {rest : List Token} (row : List Expr)
    (hf : expression scope s = .ok first) (hr : first.rest = ⟨.comma, a⟩ :: rest) :
    (items scope closing s).map (fun r => (⟨row ++ r.value, r.rest⟩ : Part (List Expr))) =
      (items scope closing rest).map fun r => ⟨row ++ [first.value] ++ r.value, r.rest⟩ := by
  rw [items_next hf hr]
  cases items scope closing rest with
  | error e => rfl
  | ok others =>
    rw [Except.map, ← List.append_cons]
    rfl

theorem map_items_last {first : Reading Expr s} (row : List Expr)
    (hf : expression scope s = .ok first) (hno : ∀ a rest, first.rest ≠ ⟨.comma, a⟩ :: rest) :
    (items scope closing s).map (fun r => (⟨row ++ r.value, r.rest⟩ : Part (List Expr))) =
      Part.close closing ⟨row ++ [first.value], first.rest⟩ := by
  rw [close_map (row ++ ·), items_last hf hno]
  show _ = Except.map _ ((first.map ([·])).part.close closing)
  rw [← close_part]
  cases close closing (first.map ([·])) <;> rfl

/-- A row ends with an argument, or it goes on behind a comma. -/
theorem turns_items (row : Part (List Expr)) :
    Turns (itemRound scope closing) id
      (fun row : Part (List Expr) => (items scope closing row.rest).map fun r =>
        ⟨row.value ++ r.value, r.rest⟩) row := by
  have hround : itemRound scope closing row.value row.rest =
      expression scope row.rest >>= fun next =>
        itemEnd closing (row.value ++ [next.value]) next.rest := rfl
  cases hf : expression scope row.rest with
  | error e =>
    rw [hf] at hround
    refine .fails hround ?_
    rw [items_bind, hf]
    rfl
  | ok first =>
    rw [hf] at hround
    by_cases hc : ∃ a rest, first.rest = ⟨.comma, a⟩ :: rest
    · obtain ⟨a, rest, hr⟩ := hc
      refine .goesOn ⟨row.value ++ [first.value], rest⟩ (hround.trans ?_)
        (map_items_next row.value hf hr)
      show itemEnd closing (row.value ++ [first.value]) first.rest = _
      rw [hr, itemEnd]
      rfl
    · have hno : ∀ a rest, first.rest ≠ ⟨.comma, a⟩ :: rest := fun a rest hr => hc ⟨a, rest, hr⟩
      have hend : itemRound scope closing row.value row.rest = _ :=
        hround.trans (itemEnd_of_not_comma hno)
      cases hclose : Part.close closing ⟨row.value ++ [first.value], first.rest⟩ with
      | error e =>
        rw [hclose] at hend
        exact .fails hend ((map_items_last row.value hf hno).trans hclose)
      | ok r =>
        rw [hclose] at hend
        exact .stops hend ((map_items_last row.value hf hno).trans hclose)

/-- A row of arguments that comes to its end has taken the closing bracket. -/
theorem closed_of_loops {n : Nat} {r r' : Part (List Expr)}
    (h : Loops (itemRound scope closing) n r (.ok r')) :
    ∃ taken a, r.rest = taken ++ ⟨closing.kind, a⟩ :: r'.rest := by
  generalize hx : (Except.ok r' : Except ParseError (Part (List Expr))) = x at h
  induction h with
  | stops h =>
    cases hx
    obtain ⟨next, hnext, h⟩ := bind_eq_ok.mp h
    obtain ⟨hexpression, -⟩ := advances scope
    obtain ⟨taken, hs⟩ := (hexpression _).took next hnext
    obtain ⟨a, r, hr, hrest⟩ | ⟨a, r, hr, hrest⟩ := rest_of_itemEnd h
    · cases hr
    · cases hr
      exact ⟨taken, a, hrest ▸ hs.symm⟩
  | fails => cases hx
  | goesOn h _ ih =>
    obtain ⟨between, -, hs⟩ := takes_itemRound h
    obtain ⟨taken, a, hrest⟩ := ih hx
    refine ⟨between ++ taken, a, ?_⟩
    rw [hs, List.append_assoc, ← hrest]
    rfl

theorem exists_loops_items (scope : Scope) (closing : Closing) (s : List Token) :
    ∃ n, n ≤ s.length ∧
      Loops (itemRound scope closing) n ⟨[], s⟩ ((items scope closing s).map Reading.part) :=
  exists_loops (fun _ _ _ => takes_itemRound) turns_items ⟨[], s⟩

/-- Arguments are read with the bracket that closes them. -/
theorem arguments_closed {r : Reading (List Expr) s} (h : arguments scope closing s = .ok r) :
    ∃ taken a, s = taken ++ ⟨closing.kind, a⟩ :: r.rest := by
  by_cases hc : ∃ a rest, s = ⟨closing.kind, a⟩ :: rest
  · obtain ⟨a, rest, rfl⟩ := hc
    rw [arguments_close] at h
    cases h
    exact ⟨[], a, rfl⟩
  · rw [arguments_items fun a rest hs => hc ⟨a, rest, hs⟩] at h
    obtain ⟨n, -, hloops⟩ := exists_loops_items scope closing s
    rw [h] at hloops
    exact closed_of_loops hloops

end Rounds

/-! ## The readers -/

/-- The readers of expressions: whole ones, those of a binary level with the prefixes as the tightest, a
primary with the members and calls behind it or without them, and the arguments up to a bracket. -/
inductive Routine
  | expression
  | level (rank : Fin (loosest + 1))
  | suffixed
  | primary
  | arguments (closing : Closing)

namespace Routine

/-- What a reader returns. -/
def Output : Routine → Type
  | arguments _ => List Expr
  | _ => Expr

/-- What a reader makes of tokens. -/
def run (scope : Scope) (source : List Token) : (m : Routine) → Result m.Output source
  | expression => Parser.expression scope source
  | level rank => binary scope rank source
  | suffixed => do members scope (← Parser.primary scope source)
  | primary => Parser.primary scope source
  | arguments closing => Parser.arguments scope closing source

/-- What a reader with a limit on its calls makes of tokens. -/
def runWithin (scope : Scope) (limit : Nat) (source : List Token) :
    (m : Routine) → Limited (Part m.Output)
  | expression => Limited.expression scope limit source
  | level rank => Limited.binary scope limit rank source
  | suffixed => do
    let target ← Limited.primary scope limit source
    Limited.members scope limit target.value target.rest
  | primary => Limited.primary scope limit source
  | arguments closing => Limited.arguments scope limit closing source

/-- What a reader does with the tokens from a position on. -/
structure Progresses (scope : Scope) (tokens : List Token) (position : Nat) (m : Routine) : Prop where
  /-- It ends as it does with any limit in proportion to the tokens, which is not its error. -/
  ends : ∀ limit, 14 * (tokens.length - position + 1) ≤ limit →
    m.runWithin scope limit (tokens.drop position) =
      unlimited ((m.run scope (tokens.drop position)).map Reading.part)
  /-- It takes tokens and stays among them. -/
  takes : ∀ r, m.run scope (tokens.drop position) = .ok r →
    ∃ next, position < next ∧ next ≤ tokens.length ∧ r.rest = tokens.drop next
  /-- It fails for the tokens at some place, or for their end. -/
  fails : ∀ e, m.run scope (tokens.drop position) = .error e →
    ∃ stop, position ≤ stop ∧ stop ≤ max position tokens.length ∧
      StoppedBy scope e (tokens.drop stop)

/-- Every reader has a place in the order of readers. -/
theorem exists_place (scope : Scope) (m : Routine) :
    ∃ place, place ≤ 14 ∧ ∀ s, Advances scope s place (m.runWithin scope · s) (m.run scope s) := by
  obtain ⟨hexpression, hbinary, -, -, hmembers, harguments, -, hprimary⟩ := advances scope
  cases m with
  | expression => exact ⟨12, by decide, hexpression⟩
  | level rank =>
    have hrank : rank < loosest + 1 := rank.isLt
    unfold loosest at hrank
    exact ⟨rank + 5, by omega, hbinary rank⟩
  | suffixed => exact ⟨3, by decide, fun s => advances_suffixes (hprimary s) (hmembers s)⟩
  | primary => exact ⟨3, by decide, hprimary⟩
  | arguments closing => exact ⟨14, by decide, harguments closing⟩

theorem progresses (scope : Scope) (tokens : List Token) (position : Nat) (m : Routine) :
    m.Progresses scope tokens position := by
  obtain ⟨place, hplace, hadvances⟩ := m.exists_place scope
  obtain ⟨hlimited, htook, hstopped⟩ := hadvances (tokens.drop position)
  refine ⟨fun limit hlimit => hlimited limit ?_, fun r hr => ?_, fun e he => ?_⟩
  · unfold callDepth
    rw [List.length_drop]
    omega
  · exact (takes_of_suffix (htook r hr) r.shorter).exists_position
  · obtain ⟨t, ht, hstop⟩ := hstopped e he
    obtain ⟨stop, hle, hmax, rfl⟩ := exists_position ht
    exact ⟨stop, hle, hmax, hstop⟩

end Routine

/-- Every reader ends wherever it starts, and it takes tokens if it succeeds, the bracket behind
arguments among them. The loops return what their rounds give, and every round takes tokens. -/
theorem runs_end_and_advance (scope : Scope) :
    (∀ tokens position (m : Routine), m.Progresses scope tokens position) ∧
    (∀ closing s r, arguments scope closing s = .ok r →
      ∃ taken a, s = taken ++ ⟨closing.kind, a⟩ :: r.rest) ∧
    ((∀ rank s (left : Reading Expr s), ∃ n, n ≤ left.rest.length ∧
        Loops (operandRound scope rank) n left.part ((operands scope rank left).map Reading.part)) ∧
      ∀ rank left s r, operandRound scope rank left s = .ok (.inl r) → Takes s r.rest) ∧
    ((∀ s (target : Reading Expr s), ∃ n, n ≤ target.rest.length ∧
        Loops (memberRound scope) n target.part ((members scope target).map Reading.part)) ∧
      ∀ target s r, memberRound scope target s = .ok (.inl r) → Takes s r.rest) ∧
    (∀ closing s, ∃ n, n ≤ s.length ∧
        Loops (itemRound scope closing) n ⟨[], s⟩ ((items scope closing s).map Reading.part)) ∧
      ∀ closing row s r, itemRound scope closing row s = .ok r → Takes s (r.elim id id).rest := by
  refine ⟨Routine.progresses scope, fun _ _ _ => arguments_closed, ⟨fun rank s left => ?_, ?_⟩,
    ⟨fun s target => ?_, ?_⟩, exists_loops_items scope, ?_⟩
  · exact exists_loops (fun _ _ _ => takes_operandRound) turns_operands left
  · exact fun _ _ _ _ => takes_operandRound
  · exact exists_loops (fun _ _ _ => takes_memberRound) turns_members target
  · exact fun _ _ _ => takes_memberRound
  · exact fun _ _ _ _ => takes_itemRound

/-- Brackets in brackets come to a limit below their depth, and to none in proportion to them. -/
example :
    Limited.expression ⟨"x", []⟩ 25 (Lexer.tokens "((x))") = .error none ∧
      Limited.expression ⟨"x", []⟩ 84 (Lexer.tokens "((x))") = .ok ⟨.parameter "x", []⟩ := by
  constructor <;> cbv

end RecordQuery.Parser
