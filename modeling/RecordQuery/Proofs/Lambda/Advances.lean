import RecordQuery.Proofs.Lambda.Branches
import RecordQuery.Proofs.Lambda.Limited

/-!
# How far the parser gets, and how deep

A run of a reader leaves an end of the tokens that it is given, or it stops at such an end, for which
the error gives the reason (`StoppedBy`). A reader with a limit on its calls ends in the same way where
the limit is in proportion to the tokens (`Advances`). `Advances.bind` puts two readers in a row and
`Advances.step` makes a call of them, one lemma for each branch of the parser uses them, and `advances`
puts them together by induction along the calls.
-/

namespace RecordQuery

/-- What was read and what is left, without where it was read. -/
def Reading.part {α : Type} {source : List Token} (r : Reading α source) : Parser.Part α :=
  ⟨r.value, r.rest⟩

namespace Parser

/-! ## Tokens that are taken -/

/-- At least one token of `s` is taken, and `t` is left. -/
def Takes (s t : List Token) : Prop := ∃ taken, taken ≠ [] ∧ s = taken ++ t

section Takes

variable {s t u : List Token}

theorem takes_of_suffix (h : t <:+ s) (hl : t.length < s.length) : Takes s t := by
  obtain ⟨taken, rfl⟩ := h
  refine ⟨taken, ?_, rfl⟩
  rintro rfl
  exact Nat.lt_irrefl _ hl

theorem Takes.suffix (h : Takes s t) : t <:+ s := by
  obtain ⟨taken, -, rfl⟩ := h
  exact List.suffix_append _ _

theorem Takes.length_lt (h : Takes s t) : t.length < s.length := by
  obtain ⟨taken, hne, rfl⟩ := h
  rw [List.length_append]
  exact Nat.lt_add_of_pos_left (List.length_pos_iff.mpr hne)

theorem Takes.trans (h : Takes s t) (hu : u <:+ t) : Takes s u := by
  obtain ⟨taken, hne, rfl⟩ := h
  obtain ⟨more, rfl⟩ := hu
  exact ⟨taken ++ more, List.append_ne_nil_of_left_ne_nil hne _, (List.append_assoc ..).symm⟩

theorem takes_cons {token : Token} (h : t <:+ s) : Takes (token :: s) t := by
  obtain ⟨taken, rfl⟩ := h
  exact ⟨token :: taken, List.cons_ne_nil _ _, rfl⟩

end Takes

/-! ## One run -/

/-- Why a reader goes no further with the tokens that are left: they have ended, or the first of them
cannot stand here. -/
inductive StoppedBy (scope : Scope) : ParseError → List Token → Prop
  /-- There is no token for an expression. -/
  | noExpression : StoppedBy scope .noExpression []
  /-- There is no name behind a dot. -/
  | noName {t : List Token} (h : ∀ name a u, t ≠ ⟨.identifier name, a⟩ :: u) :
    StoppedBy scope (missing (.identifier "") t) t
  /-- There is no closing bracket. -/
  | notClosed {closing : Closing} {t : List Token} (h : ∀ a u, t ≠ ⟨closing.kind, a⟩ :: u) :
    StoppedBy scope (missing closing.kind t) t
  /-- The text is no token. -/
  | illegal {a : Span} {u : List Token} : StoppedBy scope (.illegal a) (⟨.illegal, a⟩ :: u)
  /-- No expression starts with the token. -/
  | unexpected {kind : TokenKind} {a : Span} {u : List Token} (hl : literal? kind = none)
    (hp : kind ≠ .leftParen) (hb : kind ≠ .leftBracket) (hn : ∀ name, kind ≠ .identifier name)
    (hi : kind ≠ .illegal) : StoppedBy scope (.unexpected kind a) (⟨kind, a⟩ :: u)
  /-- The name is not the parameter, has no value and is not called. -/
  | unbound {name : String} {a : Span} {u : List Token} (hp : name ≠ scope.parameter)
    (hv : scope.bindings.get? name = none) (hu : ∀ b t, u ≠ ⟨.leftParen, b⟩ :: t) :
    StoppedBy scope (.unbound name a) (⟨.identifier name, a⟩ :: u)

/-- The calls that a reader nests at most. The readers are in the order in which they call one another
on the same tokens: what follows an operand has place 1, primaries 3, prefixes 4, binary levels come by
rank from 5 on, and expressions, items and arguments have the places 12 to 14. -/
def callDepth (place : Nat) (s : List Token) : Nat := 14 * s.length + place

theorem callDepth_lt_of_place {place place' : Nat} {s : List Token} (h : place < place') :
    callDepth place s < callDepth place' s :=
  Nat.add_lt_add_left h _

theorem callDepth_lt_of_shorter {place place' : Nat} {s t : List Token} (ht : t.length < s.length)
    (h : place < place' + 14) : callDepth place t < callDepth place' s := by
  unfold callDepth
  omega

/-- A run on the tokens `s` by a reader at a place in the order of readers, and the runs with a limit
that do the same without coming to it. -/
structure Advances (scope : Scope) (s : List Token) (place : Nat) {α : Type} {source : List Token}
    (f : Nat → Limited (Part α)) (x : Result α source) : Prop where
  limited : ∀ limit, callDepth place s ≤ limit → f limit = unlimited (x.map Reading.part)
  took : ∀ r, x = .ok r → r.rest <:+ s
  stopped : ∀ e, x = .error e → ∃ t, t <:+ s ∧ StoppedBy scope e t

section Advances

variable {scope : Scope} {s t source source' : List Token} {place place' : Nat} {α β : Type}
variable {f g : Nat → Limited (Part α)}

theorem Advances.ok {r : Reading α source} {p : Part α} (hp : p = r.part) (h : r.rest <:+ s) :
    Advances scope s place (fun _ => .ok p) (.ok r : Result α source) where
  limited _ _ := by rw [hp]; rfl
  took r' hr := by
    cases hr
    exact h
  stopped _ he := nomatch he

theorem Advances.error {e : ParseError} (h : StoppedBy scope e s) :
    Advances scope s place (fun _ => .error (some e)) (.error e : Result α source) where
  limited _ _ := rfl
  took _ hr := nomatch hr
  stopped e' he := by
    cases he
    exact ⟨s, List.suffix_refl s, h⟩

/-- A reader that calls another one on an end of its tokens. -/
theorem Advances.step {x : Result α source} (h : Advances scope t place g x) (ht : t <:+ s)
    (hn : callDepth place t < callDepth place' s) (hf : ∀ limit, f (limit + 1) = g limit) :
    Advances scope s place' f x where
  limited limit hlimit := by
    cases limit with
    | zero => omega
    | succ limit => rw [hf, h.limited limit (by omega)]
  took r hr := (h.took r hr).trans ht
  stopped e he := by
    obtain ⟨u, hu, hstop⟩ := h.stopped e he
    exact ⟨u, hu.trans ht, hstop⟩

/-- A reader that calls another one on its tokens. -/
theorem Advances.call {x : Result α source} (h : Advances scope s place g x) (hp : place < place')
    (hf : ∀ limit, f (limit + 1) = g limit) : Advances scope s place' f x :=
  h.step (List.suffix_refl s) (callDepth_lt_of_place hp) hf

/-- A reader that takes tokens and calls another one. -/
theorem Advances.behind {x : Result α source} (h : Advances scope t place g x) (ht : Takes s t)
    (hp : place < place' + 14) (hf : ∀ limit, f (limit + 1) = g limit) :
    Advances scope s place' f x :=
  h.step ht.suffix (callDepth_lt_of_shorter ht.length_lt hp) hf

/-- Two readers in a row, the second on what the first leaves. -/
theorem Advances.bind {x : Result α s} {k : Part α → Nat → Limited (Part β)}
    {k' : Reading α s → Result β source'} (h : Advances scope s place f x)
    (hp : place' ≤ place + 14)
    (hk : ∀ r, x = .ok r → Advances scope r.rest place' (k r.part) (k' r)) :
    Advances scope s place (fun limit => f limit >>= fun p => k p limit) (x >>= k') := by
  cases x with
  | error e =>
    refine ⟨fun limit hlimit => ?_, nofun, fun e' he => ?_⟩
    · show f limit >>= _ = _
      rw [h.limited limit hlimit]
      rfl
    · cases he
      exact h.stopped e rfl
  | ok r =>
    have hr := hk r rfl
    have hrest : r.rest <:+ s := h.took r rfl
    refine ⟨fun limit hlimit => ?_, fun r' hr' => (hr.took r' hr').trans hrest, fun e he => ?_⟩
    · show f limit >>= _ = _
      rw [h.limited limit hlimit]
      have hdepth : callDepth place' r.rest ≤ callDepth place s := by
        have := r.shorter
        unfold callDepth
        omega
      exact hr.limited limit (Nat.le_trans hdepth hlimit)
    · obtain ⟨u, hu, hstop⟩ := hr.stopped e he
      exact ⟨u, hu.trans hrest, hstop⟩

/-- What is done with the value alone takes no further tokens. -/
theorem Advances.map {x : Result α s} {k : Part α → Part β} {k' : Reading α s → Reading β source'}
    (h : Advances scope s place f x) (hk : ∀ r, k r.part = (k' r).part)
    (hrest : ∀ r, (k' r).rest = r.rest) :
    Advances scope s place (fun limit => f limit >>= fun p => .ok (k p))
      (x >>= fun r => .ok (k' r)) := by
  refine h.bind (k := fun p _ => .ok (k p)) (Nat.le_add_right place 14) fun r _ => ?_
  rw [← hrest r]
  exact .ok (hk r) (List.suffix_refl _)

theorem Advances.within {x : Result α source} (h : Advances scope s place f x)
    (hl : source.length ≤ source'.length) :
    Advances scope s place f (x >>= fun r => .ok (r.within hl)) := by
  cases x with
  | error e =>
    refine ⟨h.limited, nofun, fun e' he => ?_⟩
    cases he
    exact h.stopped e rfl
  | ok r =>
    refine ⟨h.limited, fun r' hr => ?_, nofun⟩
    cases hr
    exact h.took r rfl

theorem close_part {closing : Closing} {r : Reading α source} :
    (close closing r).map Reading.part = r.part.close closing := by
  by_cases hc : ∃ a t, r.rest = ⟨closing.kind, a⟩ :: t
  · obtain ⟨a, t, hr⟩ := hc
    have hclosed : close closing r = .ok ⟨r.value, t, Reading.tail_shorter hr⟩ :=
      close_eq_ok.mpr ⟨a, hr, rfl⟩
    rw [hclosed]
    refine Eq.symm ((if_pos (isAt_iff.mpr ⟨a, t, hr⟩)).trans ?_)
    show Except.ok (⟨r.value, r.rest.tail⟩ : Part α) = _
    rw [hr]
    rfl
  · rw [close_of_not_closing fun a t hr => hc ⟨a, t, hr⟩]
    exact (if_neg fun hat => hc (isAt_iff.mp hat)).symm

theorem Advances.close {closing : Closing} {r : Reading α source} :
    Advances scope r.rest place (fun _ => unlimited (r.part.close closing)) (close closing r) where
  limited _ _ := congrArg unlimited close_part.symm
  took r' hr := by
    obtain ⟨a, hrest, -⟩ := close_eq_ok.mp hr
    rw [hrest]
    exact List.suffix_cons _ _
  stopped e he := by
    have hno (a : Span) (t : List Token) : r.rest ≠ ⟨closing.kind, a⟩ :: t := by
      intro hr
      have hclosed : Parser.close closing r = .ok ⟨r.value, t, Reading.tail_shorter hr⟩ :=
        close_eq_ok.mpr ⟨a, hr, rfl⟩
      cases he.symm.trans hclosed
    rw [close_of_not_closing hno] at he
    cases he
    exact ⟨r.rest, List.suffix_refl _, .notClosed hno⟩

end Advances

/-! ## The branches -/

section Branches

variable {scope : Scope} {rank : Nat} {closing : Closing} {s : List Token}

theorem advances_level
    (hb : Advances scope s (rank + 5) (Limited.binary scope · rank s) (binary scope rank s))
    (ho : ∀ left : Reading Expr s,
      Advances scope left.rest 1 (Limited.operands scope · rank left.value left.rest)
        (operands scope rank left)) :
    Advances scope s (rank + 6) (Limited.binary scope · (rank + 1) s) (binary scope (rank + 1) s) := by
  rw [binary_succ]
  exact .call (.bind (k := fun left limit => Limited.operands scope limit rank left.value left.rest)
    hb (by omega) fun left _ => ho left) (Nat.lt_succ_self _) fun _ => rfl

theorem advances_stop {left : Reading Expr s}
    (h : ∀ token rest, left.rest = token :: rest → operator? (rank + 1) token.kind = none) :
    Advances scope left.rest 1 (Limited.operands scope · rank left.value left.rest)
      (operands scope rank left) := by
  have hpart (limit : Nat) : Limited.operands scope (limit + 1) rank left.value left.rest =
      .ok ⟨left.value, left.rest⟩ := by
    cases hr : left.rest with
    | nil => rw [Limited.operands]
    | cons token rest => rw [Limited.operands, h token rest hr]
  rw [operands_stop h]
  exact .call (.ok rfl (List.suffix_refl _)) Nat.one_pos hpart

theorem advances_next {left : Reading Expr s} {token : Token} {rest : List Token} {op : BinaryOp}
    (h : left.rest = token :: rest) (ho : operator? (rank + 1) token.kind = some op)
    (hb : Advances scope rest (rank + 5) (Limited.binary scope · rank rest) (binary scope rank rest))
    (hm : ∀ right : Reading Expr rest,
      let more : Reading Expr s := ⟨.binary op left.value right.value, right.rest,
        Nat.lt_trans right.shorter (Reading.tail_shorter h)⟩
      Advances scope right.rest 1 (Limited.operands scope · rank more.value more.rest)
        (operands scope rank more)) :
    Advances scope left.rest 1 (Limited.operands scope · rank left.value left.rest)
      (operands scope rank left) := by
  have hrank : rank + 1 ≤ loosest := by
    rw [← (operator?_eq_some.mp ho).2]
    cases op <;> decide
  have hpart (limit : Nat) : Limited.operands scope (limit + 1) rank left.value left.rest =
      Limited.binary scope limit rank rest >>= fun right =>
        Limited.operands scope limit rank (.binary op left.value right.value) right.rest := by
    rw [h, Limited.operands, ho]
  rw [operands_next h ho]
  refine .behind (.bind (k := fun right limit =>
    Limited.operands scope limit rank (.binary op left.value right.value) right.rest) hb (by omega)
    fun right _ => hm right) ⟨[token], List.cons_ne_nil _ _, h⟩ ?_ hpart
  unfold loosest at hrank
  omega

/-- A prefix before an operand. -/
theorem advances_prefix {token : Token} {k : Expr → Expr}
    (hu : unary scope (token :: s) = unary scope s >>= fun r =>
      .ok ((r.map k).within (Nat.le_succ _)))
    (hl : ∀ limit, Limited.unary scope (limit + 1) (token :: s) =
      Limited.unary scope limit s >>= fun r => .ok ⟨k r.value, r.rest⟩)
    (h : Advances scope s 4 (Limited.unary scope · s) (unary scope s)) :
    Advances scope (token :: s) 4 (Limited.unary scope · (token :: s)) (unary scope (token :: s)) := by
  rw [hu]
  exact .behind (.map (k := fun r => ⟨k r.value, r.rest⟩) h (fun _ => rfl) fun _ => rfl)
    (takes_cons (List.suffix_refl _)) (by decide) hl

/-- A primary and what follows it. -/
theorem advances_suffixes (hp : Advances scope s 3 (Limited.primary scope · s) (primary scope s))
    (hs : ∀ target : Reading Expr s,
      Advances scope target.rest 1 (Limited.members scope · target.value target.rest)
        (members scope target)) :
    Advances scope s 3
      (fun limit => Limited.primary scope limit s >>= fun target =>
        Limited.members scope limit target.value target.rest)
      (primary scope s >>= fun target => members scope target) :=
  .bind (k := fun target limit => Limited.members scope limit target.value target.rest) hp (by decide)
    fun target _ => hs target

theorem advances_suffixed (hb : ∀ a rest, s ≠ ⟨.bang, a⟩ :: rest)
    (hm : ∀ a rest, s ≠ ⟨.minus, a⟩ :: rest)
    (h : Advances scope s 3
      (fun limit => Limited.primary scope limit s >>= fun target =>
        Limited.members scope limit target.value target.rest)
      (primary scope s >>= fun target => members scope target)) :
    Advances scope s 4 (Limited.unary scope · s) (unary scope s) := by
  rw [unary_other hb hm]
  refine h.call (by decide) fun limit => ?_
  rw [Limited.unary]
  · exact hb
  · exact hm

theorem advances_bare {target : Reading Expr s} (h : ∀ a rest, target.rest ≠ ⟨.dot, a⟩ :: rest) :
    Advances scope target.rest 1 (Limited.members scope · target.value target.rest)
      (members scope target) := by
  have hpart (limit : Nat) : Limited.members scope (limit + 1) target.value target.rest =
      .ok ⟨target.value, target.rest⟩ := by
    rw [Limited.members]
    · exact fun a _ _ _ rest => h a _
    · exact fun a _ _ rest => h a _
    · exact h
  rw [members_stop h]
  exact .call (.ok rfl (List.suffix_refl _)) Nat.one_pos hpart

/-- A dot with a name or not, and the name with a parenthesis or not. -/
theorem advances_dot {target : Reading Expr s} {a : Span} {rest : List Token}
    (h : target.rest = ⟨.dot, a⟩ :: rest)
    (ha : ∀ (member : Reading String rest) (b : Span) (afterParen : List Token),
      member.rest = ⟨.leftParen, b⟩ :: afterParen →
      Advances scope afterParen 14 (Limited.arguments scope · .paren afterParen)
        (arguments scope .paren afterParen))
    (hc : ∀ (member : Reading String rest) (b : Span) (afterParen : List Token)
      (hm : member.rest = ⟨.leftParen, b⟩ :: afterParen) (args : Reading (List Expr) afterParen),
      let called : Reading Expr s := ⟨.call target.value member.value args.value, args.rest,
        Nat.lt_trans args.shorter
          (Nat.lt_trans (Reading.tail_shorter hm) (Reading.tail_shorter h))⟩
      Advances scope args.rest 1 (Limited.members scope · called.value called.rest)
        (members scope called))
    (hd : ∀ (member : Reading String rest) (afterName : List Token) (hm : member.rest = afterName),
      let named : Reading Expr s := ⟨.member target.value member.value, afterName,
        hm ▸ Nat.lt_trans member.shorter (Reading.tail_shorter h)⟩
      Advances scope afterName 1 (Limited.members scope · named.value named.rest)
        (members scope named)) :
    Advances scope target.rest 1 (Limited.members scope · target.value target.rest)
      (members scope target) := by
  rcases behind_dot rest with ⟨n, b, c, t, rfl⟩ | ⟨n, b, u, rfl, hno⟩ | hno
  · let member : Reading String (⟨.identifier n, b⟩ :: ⟨.leftParen, c⟩ :: t) :=
      ⟨n, _, Nat.lt_succ_self _⟩
    have hlt : t.length < s.length :=
      Nat.lt_of_succ_lt (Nat.lt_trans member.shorter (Reading.tail_shorter h))
    rw [members_call h hlt]
    refine .behind (.bind (k := fun args limit =>
      Limited.members scope limit (.call target.value n args.value) args.rest) (ha member c t rfl)
      (by decide) fun args _ => hc member c t rfl args) ⟨[_, _, _], List.cons_ne_nil _ _, h⟩
      (by decide) fun limit => ?_
    rw [h, Limited.members]
  · let member : Reading String (⟨.identifier n, b⟩ :: u) := ⟨n, u, Nat.lt_succ_self _⟩
    have hlt : u.length < s.length := Nat.lt_trans member.shorter (Reading.tail_shorter h)
    rw [members_member h hlt hno]
    refine .behind (hd member u rfl) ⟨[_, _], List.cons_ne_nil _ _, h⟩ (by decide) fun limit => ?_
    rw [h, Limited.members]
    exact hno
  · rw [members_noName h hno]
    have hstop : Advances scope rest 0 (fun _ => .error _) (.error _ : Result Expr s) :=
      .error (.noName hno)
    refine hstop.behind ⟨[_], List.cons_ne_nil _ _, h⟩ (by decide) fun limit => ?_
    rw [h, Limited.members]
    · exact fun n b c t => hno n b _
    · exact hno

theorem advances_token {token : Token} {e : Expr}
    (h : primary scope (token :: s) = .ok ⟨e, s, Nat.lt_succ_self _⟩)
    (hl : ∀ limit, Limited.primary scope (limit + 1) (token :: s) = .ok ⟨e, s⟩) :
    Advances scope (token :: s) 3 (Limited.primary scope · (token :: s))
      (primary scope (token :: s)) := by
  rw [h]
  exact .call (.ok rfl (List.suffix_cons _ _)) (by decide : 0 < 3) hl

theorem advances_fault {e : ParseError} (he : StoppedBy scope e s) (h : primary scope s = .error e)
    (hl : ∀ limit, Limited.primary scope (limit + 1) s = .error (some e)) :
    Advances scope s 3 (Limited.primary scope · s) (primary scope s) := by
  rw [h]
  exact .call (.error he) (by decide : 0 < 3) hl

theorem advances_paren {a : Span}
    (h : Advances scope s 12 (Limited.expression scope · s) (expression scope s)) :
    Advances scope (⟨.leftParen, a⟩ :: s) 3 (Limited.primary scope · (⟨.leftParen, a⟩ :: s))
      (primary scope (⟨.leftParen, a⟩ :: s)) := by
  rw [primary_paren]
  refine .behind (.bind (k := fun r _ => unlimited (r.close .paren)) h (Nat.le_add_right 12 14)
    fun r _ => .within .close _) (takes_cons (List.suffix_refl _)) (by decide) fun limit => ?_
  rw [Limited.primary]
  rfl

theorem advances_list {a : Span}
    (h : Advances scope s 14 (Limited.arguments scope · .bracket s) (arguments scope .bracket s)) :
    Advances scope (⟨.leftBracket, a⟩ :: s) 3 (Limited.primary scope · (⟨.leftBracket, a⟩ :: s))
      (primary scope (⟨.leftBracket, a⟩ :: s)) := by
  rw [primary_list]
  refine .behind (.map (k := fun r => ⟨.list r.value, r.rest⟩) h (fun _ => rfl) fun _ => rfl)
    (takes_cons (List.suffix_refl _)) (by decide) fun limit => ?_
  rw [Limited.primary]
  rfl

theorem advances_static {a b : Span} {name : String} (hn : name ≠ scope.parameter)
    (h : Advances scope s 14 (Limited.arguments scope · .paren s) (arguments scope .paren s)) :
    Advances scope (⟨.identifier name, a⟩ :: ⟨.leftParen, b⟩ :: s) 3
      (Limited.primary scope · (⟨.identifier name, a⟩ :: ⟨.leftParen, b⟩ :: s))
      (primary scope (⟨.identifier name, a⟩ :: ⟨.leftParen, b⟩ :: s)) := by
  rw [primary_static hn]
  refine .behind (.map (k := fun r => ⟨.staticCall name r.value, r.rest⟩) h (fun _ => rfl)
    fun _ => rfl) (takes_cons (List.suffix_cons _ _)) (by decide) fun limit => ?_
  rw [Limited.primary]
  exact if_neg hn

theorem advances_noArgs {a : Span} :
    Advances scope (⟨closing.kind, a⟩ :: s) 14
      (Limited.arguments scope · closing (⟨closing.kind, a⟩ :: s))
      (arguments scope closing (⟨closing.kind, a⟩ :: s)) := by
  rw [arguments_close]
  refine .call (.ok rfl (List.suffix_cons _ _)) (by decide : 0 < 14) fun limit => ?_
  exact if_pos (isAt_iff.mpr ⟨a, s, rfl⟩)

theorem advances_args (hno : ∀ a rest, s ≠ ⟨closing.kind, a⟩ :: rest)
    (h : Advances scope s 13 (Limited.items scope · closing s) (items scope closing s)) :
    Advances scope s 14 (Limited.arguments scope · closing s) (arguments scope closing s) := by
  rw [arguments_items hno]
  refine h.call (by decide) fun limit => if_neg fun hat => ?_
  obtain ⟨a, rest, hs⟩ := isAt_iff.mp hat
  exact hno a rest hs

/-- Behind the first argument is a comma with the others, or the closing bracket. -/
theorem advances_moreArgs {first : Reading Expr s} (hf : expression scope s = .ok first)
    (hi : ∀ (a : Span) (rest : List Token), first.rest = ⟨.comma, a⟩ :: rest →
      Advances scope rest 13 (Limited.items scope · closing rest) (items scope closing rest)) :
    Advances scope first.rest 1 (Limited.moreItems scope · closing first.value first.rest)
      (items scope closing s) := by
  by_cases hc : ∃ a rest, first.rest = ⟨.comma, a⟩ :: rest
  · obtain ⟨a, rest, hr⟩ := hc
    rw [items_next hf hr]
    refine .behind (.map (k := fun others => ⟨first.value :: others.value, others.rest⟩)
      (hi a rest hr) (fun _ => rfl) fun _ => rfl) ⟨[_], List.cons_ne_nil _ _, hr⟩ (by decide)
      fun limit => ?_
    rw [hr, Limited.moreItems]
  · have hno : ∀ a rest, first.rest ≠ ⟨.comma, a⟩ :: rest := fun a rest hr => hc ⟨a, rest, hr⟩
    have hclose : Advances scope (first.map ([·])).rest 0 _ (close closing (first.map ([·]))) := .close
    rw [items_last hf hno]
    refine hclose.call Nat.one_pos fun limit => ?_
    rw [Limited.moreItems]
    · rfl
    · exact hno

theorem advances_items
    (he : Advances scope s 12 (Limited.expression scope · s) (expression scope s))
    (hi : ∀ (first : Reading Expr s) (a : Span) (rest : List Token),
      first.rest = ⟨.comma, a⟩ :: rest →
      Advances scope rest 13 (Limited.items scope · closing rest) (items scope closing rest)) :
    Advances scope s 13 (Limited.items scope · closing s) (items scope closing s) := by
  -- whether a comma follows is known only once the first argument has been read
  rw [items_bind]
  exact .call (.bind (k := fun first limit =>
    Limited.moreItems scope limit closing first.value first.rest) he (by decide)
    fun first hf => advances_moreArgs hf (hi first)) (by decide) fun _ => rfl

end Branches

/-! ## The parser -/

/-- Every reader gets on with any tokens, or finds what stops it. -/
theorem advances (scope : Scope) :
    (∀ s, Advances scope s 12 (Limited.expression scope · s) (expression scope s)) ∧
      (∀ rank s, Advances scope s (rank + 5) (Limited.binary scope · rank s)
        (binary scope rank s)) ∧
      (∀ rank s (left : Reading Expr s), Advances scope left.rest 1
        (Limited.operands scope · rank left.value left.rest) (operands scope rank left)) ∧
      (∀ s, Advances scope s 4 (Limited.unary scope · s) (unary scope s)) ∧
      (∀ s (target : Reading Expr s), Advances scope target.rest 1
        (Limited.members scope · target.value target.rest) (members scope target)) ∧
      (∀ closing s, Advances scope s 14 (Limited.arguments scope · closing s)
        (arguments scope closing s)) ∧
      (∀ closing s, Advances scope s 13 (Limited.items scope · closing s)
        (items scope closing s)) ∧
      ∀ s, Advances scope s 3 (Limited.primary scope · s) (primary scope s) := by
  refine expression.mutual_induct scope
    (fun s => Advances scope s 12 (Limited.expression scope · s) (expression scope s))
    (fun rank s => Advances scope s (rank + 5) (Limited.binary scope · rank s) (binary scope rank s))
    (fun rank _ left => Advances scope left.rest 1
      (Limited.operands scope · rank left.value left.rest) (operands scope rank left))
    (fun s => Advances scope s 4 (Limited.unary scope · s) (unary scope s))
    (fun _ target => Advances scope target.rest 1
      (Limited.members scope · target.value target.rest) (members scope target))
    (fun closing s => Advances scope s 14 (Limited.arguments scope · closing s)
      (arguments scope closing s))
    (fun closing s => Advances scope s 13 (Limited.items scope · closing s) (items scope closing s))
    (fun s => Advances scope s 3 (Limited.primary scope · s) (primary scope s)) ?_ ?_ ?_ ?_ ?_ ?_ ?_
    ?_ ?_ ?_ ?_ ?_ ?_ ?_ ?_ ?_ ?_ ?_ ?_ ?_ ?_ ?_ ?_ ?_ ?_
  -- expressions, operators and operands
  · intro s h
    rw [expression_eq]
    exact h.call (by decide) fun _ => rfl
  · intro s h
    rw [binary_zero]
    exact h.call (by decide) fun _ => rfl
  · exact fun s rank => advances_level
  · intro rank s left h
    refine advances_stop fun token rest hr => ?_
    rw [h] at hr
    cases hr
  · intro rank s left token rest h ho
    refine advances_stop fun token' rest' hr => ?_
    obtain ⟨rfl, -⟩ := List.cons.inj (h.symm.trans hr)
    exact ho
  · exact fun rank s left token rest h op => advances_next h
  · exact fun a s => advances_prefix unary_bang fun _ => rfl
  · exact fun a s => advances_prefix unary_minus fun _ => rfl
  · exact fun s hb hm hp hs => advances_suffixed hb hm (advances_suffixes hp hs)
  -- members and calls
  · exact fun s target a rest => advances_dot
  · exact fun s target => advances_bare
  -- arguments
  · exact fun closing => advances_args fun _ _ => nofun
  · intro closing token tail h
    obtain ⟨a, rest, hs⟩ := isAt_iff.mp h
    rw [hs]
    exact advances_noArgs
  · exact fun closing token tail h => advances_args fun a rest hs => h (isAt_iff.mpr ⟨a, rest, hs⟩)
  · exact fun closing s => advances_items
  -- primaries
  · exact advances_fault .noExpression (by rw [primary]) fun _ => rfl
  · intro token tail v h
    refine advances_token (primary_literal (literal?_eq_some.mp h)) fun limit => ?_
    rw [Limited.primary, h]
  · rintro ⟨_, a⟩ tail - rfl
    exact advances_paren
  · rintro ⟨_, a⟩ tail - rfl
    exact advances_list
  · rintro ⟨_, a⟩ tail - rfl
    exact advances_token (primary_parameter rfl) fun limit => if_pos rfl
  · rintro ⟨_, a⟩ - name rfl h b tail
    exact advances_static h
  · rintro ⟨_, a⟩ - name rfl h rest hs v hv
    refine advances_token (primary_bound h hv hs) fun limit => ?_
    rw [Limited.primary]
    simp only [literal?, if_neg h, hv]
  · rintro ⟨_, a⟩ - name rfl h rest hs hv
    refine advances_fault (.unbound h hv hs) (primary_unbound h hv hs) fun limit => ?_
    rw [Limited.primary]
    simp only [literal?, if_neg h, hv]
  · rintro ⟨_, a⟩ tail - rfl
    exact advances_fault .illegal (by rw [primary]; rfl) fun _ => rfl
  · rintro ⟨kind, a⟩ tail hl hparen hbracket hname hillegal
    refine advances_fault (.unexpected hl hparen hbracket hname hillegal)
      (primary_unexpected hl hparen hbracket hname hillegal) fun limit => ?_
    rw [Limited.primary, hl]
    split <;> first | rfl | simp_all

end Parser

end RecordQuery
