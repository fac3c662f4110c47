import RecordQuery.Proofs.Lambda.Readers

/-!
# How the runs of the parser end

Each function of the parser is a reader that looks at one token. One lemma for each branch says how a
run that takes it ends, from how the runs that it starts end. `answers_expression` puts them together
by induction along the calls of the parser.
-/

namespace RecordQuery.Grammar

open RecordQuery.Parser

variable {scope : Scope} {rank : Nat} {closing : Closing} {s : List Token}

/-! ## The readers of the parser -/

/-- What a run leaves, without what it has read. -/
def leaves {α : Type} (x : Result α s) : Except ParseError (List Token) :=
  x.map Reading.rest

/-- Expressions with operators up to a rank. -/
def levels (scope : Scope) (rank : Nat) : Reader where
  reads s x := leaves (binary scope rank s) = x
  whole := Whole scope (.level rank)

/-- Operators and operands behind an operand. -/
def operations (scope : Scope) (rank : Nat) : Reader where
  reads t x := ∀ (source : List Token) (left : Reading Expr source), left.rest = t →
    leaves (operands scope rank left) = x
  whole := Whole scope (.more rank)

/-- Primaries. -/
def primaries (scope : Scope) : Reader where
  reads s x := leaves (primary scope s) = x
  whole := Whole scope .primary

/-- Members and calls behind a primary. -/
def suffixes (scope : Scope) : Reader where
  reads t x := ∀ (source : List Token) (target : Reading Expr source), target.rest = t →
    leaves (members scope target) = x
  whole := Whole scope .suffixes

/-- A closing bracket. -/
def brackets (closing : Closing) : Reader where
  reads t x := ∀ (α : Type) (source : List Token) (r : Reading α source), r.rest = t →
    leaves (close closing r) = x
  whole p := ∃ a, p = [⟨closing.kind, a⟩]

/-- Arguments up to the closing bracket. -/
def rows (scope : Scope) (closing : Closing) : Reader where
  reads s x := leaves (arguments scope closing s) = x
  whole := WholeArguments scope closing

/-- One or more arguments up to the closing bracket. -/
def itemRows (scope : Scope) (closing : Closing) : Reader where
  reads s x := leaves (items scope closing s) = x
  whole := WholeItems scope closing

/-- The arguments behind the first, up to the closing bracket. -/
def moreRows (scope : Scope) (closing : Closing) : Reader where
  reads t x := ∀ (source : List Token) (first : Reading Expr source),
    expression scope source = .ok first → first.rest = t → leaves (items scope closing source) = x
  whole := WholeMoreArguments scope closing

/-! ## Runs and what they leave -/

theorem leaves_eq_error {α : Type} {x : Result α s} {e : ParseError} :
    leaves x = .error e ↔ x = .error e := by
  cases x <;> simp [leaves, Except.map]

theorem leaves_eq_ok {α : Type} {x : Result α s} {t : List Token} :
    leaves x = .ok t ↔ ∃ r, x = .ok r ∧ r.rest = t := by
  cases x <;> simp [leaves, Except.map]

theorem leaves_bind {α β : Type} {s' : List Token} (x : Result α s) (f : Reading α s → Result β s') :
    leaves (x >>= f) = x >>= fun r => leaves (f r) := by
  cases x <;> rfl

/-- What is done with the value alone does not change what is left. -/
theorem leaves_within {α : Type} {s' : List Token} (x : Result α s) (h : s.length ≤ s'.length) :
    leaves (x >>= fun r => .ok (r.within h)) = leaves x := by
  cases x <;> rfl

theorem leaves_map {α β : Type} {s' : List Token} (x : Result α s) (f : α → β)
    (h : s.length ≤ s'.length) : leaves (x >>= fun r => .ok ((r.map f).within h)) = leaves x := by
  cases x <;> rfl

theorem leaves_expression : leaves (expression scope s) = leaves (binary scope 6 s) := by
  rw [expression_eq, loosest]

/-- What is left behind tokens that are left. -/
theorem length_lt_of_rest {α : Type} {r : Reading α s} (p : List Token) {t : List Token}
    (h : r.rest = p ++ t) : t.length < s.length := by
  have hshorter := r.shorter
  rw [h, List.length_append] at hshorter
  omega

/-- A reader that starts with a run of another one. -/
theorem Leads.of_result {α : Type} {first second R : Reader} {x : (s' : List Token) → Result α s'}
    (hx : ∀ s' y, first.reads s' y → leaves (x s') = y)
    (hfail : ∀ s' e, s'.head? = s.head? → x s' = .error e → R.reads s' (.error e))
    (hok : ∀ s' r y, s'.head? = s.head? → x s' = .ok r → second.reads r.rest y → R.reads s' y)
    (hw : ∀ p p', first.whole p → second.whole p' → R.whole (p ++ p'))
    (he : ∃ p', second.whole p') : Leads first second R s where
  fails s' e hs h := hfail s' e hs (leaves_eq_error.mp (hx s' _ h))
  goesOn s' t y hs h hy := by
    obtain ⟨r, hr, rfl⟩ := leaves_eq_ok.mp (hx s' _ h)
    exact hok s' r y hs hr hy
  whole := hw
  ends := he

/-- A token that is missing is missing whatever is behind the token in its place. -/
theorem answers_missing {R : Reader} (wanted : TokenKind) (hb : Begins R.whole [])
    (hr : ∀ s', s'.head? = s.head? → R.reads s' (.error (missing wanted s'))) :
    Answers scope R s (.error (missing wanted s)) := by
  cases s with
  | nil => exact .ended rfl hb
  | cons token u => exact .stopped (p := []) rfl nofun hb fun u' => hr (token :: u') rfl

/-! ## Operators -/

theorem answers_level
    (hb : Answers scope (levels scope rank) s (leaves (binary scope rank s)))
    (ho : ∀ left : Reading Expr s,
      Answers scope (operations scope rank) left.rest (leaves (operands scope rank left))) :
    Answers scope (levels scope (rank + 1)) s (leaves (binary scope (rank + 1) s)) := by
  rw [binary_succ, leaves_bind]
  refine .bind (.of_result (fun _ _ h => h) ?_ ?_ (fun _ _ => whole_level) ⟨[], whole_nil_more⟩) hb
    fun left _ => ho left
  · intro s' e _ h
    show leaves (binary scope (rank + 1) s') = _
    rw [binary_succ, h]
    rfl
  · intro s' left y _ h hy
    show leaves (binary scope (rank + 1) s') = _
    rw [binary_succ, h]
    exact hy s' left rfl

theorem answers_stop {left : Reading Expr s}
    (h : ∀ token, left.rest.head? = some token → operator? (rank + 1) token.kind = none) :
    Answers scope (operations scope rank) left.rest (leaves (operands scope rank left)) := by
  have hstop (source : List Token) (left' : Reading Expr source)
      (hl : left'.rest.head? = left.rest.head?) : operands scope rank left' = .ok left' := by
    refine operands_stop fun token rest hr => h token ?_
    rw [← hl, hr]
    rfl
  rw [hstop s left rfl]
  refine .took (p := []) whole_nil_more ?_
  rintro _ ht source left' rfl
  rw [hstop source left' ht]
  rfl

theorem answers_next {left : Reading Expr s} {token : Token} {rest : List Token} {op : BinaryOp}
    (h : left.rest = token :: rest) (ho : operator? (rank + 1) token.kind = some op)
    (hb : Answers scope (levels scope rank) rest (leaves (binary scope rank rest)))
    (hm : ∀ right : Reading Expr rest,
      Answers scope (operations scope rank) right.rest
        (leaves (operands scope rank (⟨.binary op left.value right.value, right.rest,
          Nat.lt_trans right.shorter (Reading.tail_shorter h)⟩ : Reading Expr s)))) :
    Answers scope (operations scope rank) left.rest (leaves (operands scope rank left)) := by
  obtain ⟨hk, hr⟩ := operator?_eq_some.mp ho
  rw [operands_next h ho, leaves_bind, h]
  refine .behind (.bind (.of_result (fun _ _ h => h) ?_ ?_ (fun _ _ => whole_next hk hr)
    ⟨[], whole_nil_more⟩) hb fun right _ => hm right)
  · intro s' e _ he source left' hl
    rw [operands_next hl ho, he]
    rfl
  · intro s' right y _ hright hy source left' hl
    rw [operands_next hl ho, hright]
    exact hy source ⟨.binary op left'.value right.value, right.rest, _⟩ rfl

theorem answers_unary (h : Answers scope (levels scope 0) s (leaves (unary scope s))) :
    Answers scope (levels scope 0) s (leaves (binary scope 0 s)) := by
  rw [binary_zero]
  exact h

theorem leaves_unary_bang {a : Span} :
    leaves (unary scope (⟨.bang, a⟩ :: s)) = leaves (unary scope s) := by
  rw [unary_bang, leaves_map]

theorem leaves_unary_minus {a : Span} :
    leaves (unary scope (⟨.minus, a⟩ :: s)) = leaves (unary scope s) := by
  rw [unary_minus, leaves_map]

/-- A prefix before an operand. -/
theorem answers_prefix {token : Token}
    (hl : ∀ s, leaves (unary scope (token :: s)) = leaves (unary scope s))
    (hw : ∀ p, Whole scope (.level 0) p → Whole scope (.level 0) (token :: p))
    (h : Answers scope (levels scope 0) s (leaves (unary scope s))) :
    Answers scope (levels scope 0) (token :: s) (leaves (unary scope (token :: s))) := by
  rw [hl]
  refine .behind (h.become ⟨fun s' x _ hx => ?_, hw⟩)
  show leaves (binary scope 0 (token :: s')) = x
  rw [binary_zero, hl, ← binary_zero]
  exact hx

theorem answers_suffixed (hb : ∀ a rest, s ≠ ⟨.bang, a⟩ :: rest)
    (hm : ∀ a rest, s ≠ ⟨.minus, a⟩ :: rest)
    (hp : Answers scope (primaries scope) s (leaves (primary scope s)))
    (hs : ∀ target : Reading Expr s,
      Answers scope (suffixes scope) target.rest (leaves (members scope target))) :
    Answers scope (levels scope 0) s (leaves (unary scope s)) := by
  -- tokens that start alike start with no prefix either
  have hother (s' : List Token) (h : s'.head? = s.head?) :
      unary scope s' = primary scope s' >>= fun target => members scope target :=
    unary_other (ne_cons_of_head hb h) (ne_cons_of_head hm h)
  rw [hother s rfl, leaves_bind]
  refine .bind (.of_result (fun _ _ h => h) ?_ ?_ (fun _ _ => whole_suffixed)
    ⟨[], whole_nil_suffixes⟩) hp fun target _ => hs target
  · intro s' e h he
    show leaves (binary scope 0 s') = _
    rw [binary_zero, hother s' h, he]
    rfl
  · intro s' target y h ht hy
    show leaves (binary scope 0 s') = _
    rw [binary_zero, hother s' h, ht]
    exact hy s' target rfl

/-! ## Members and calls -/

theorem answers_bare {target : Reading Expr s} (h : ∀ a rest, target.rest ≠ ⟨.dot, a⟩ :: rest) :
    Answers scope (suffixes scope) target.rest (leaves (members scope target)) := by
  have hstop (source : List Token) (target' : Reading Expr source)
      (ht : target'.rest.head? = target.rest.head?) : members scope target' = .ok target' :=
    members_stop (ne_cons_of_head h ht)
  rw [hstop s target rfl]
  refine .took (p := []) whole_nil_suffixes ?_
  rintro _ ht source target' rfl
  rw [hstop source target' ht]
  rfl

/-- Behind a dot is no name. -/
theorem answers_noName {target : Reading Expr s} {a : Span} {rest : List Token}
    (h : target.rest = ⟨.dot, a⟩ :: rest) (hn : ∀ n b u, rest ≠ ⟨.identifier n, b⟩ :: u) :
    Answers scope (suffixes scope) target.rest (leaves (members scope target)) := by
  have hfail (s' source : List Token) (target' : Reading Expr source)
      (ht : target'.rest = ⟨.dot, a⟩ :: s') (hs : s'.head? = rest.head?) :
      members scope target' = .error (missing (.identifier "") s') :=
    members_noName ht fun n => ne_cons_of_head (hn n) hs
  rw [hfail rest s target h rfl, h]
  refine .behind (answers_missing _ ?_ ?_)
  · exact ⟨[⟨.identifier "x", a⟩], whole_member whole_nil_suffixes⟩
  · intro s' hs source target' ht
    rw [hfail s' source target' ht hs]
    rfl

theorem answers_member {target : Reading Expr s} {a b : Span} {name : String} {rest : List Token}
    (h : target.rest = ⟨.dot, a⟩ :: ⟨.identifier name, b⟩ :: rest) (hlt : rest.length < s.length)
    (hp : NoParen rest)
    (hm : Answers scope (suffixes scope) rest
      (leaves (members scope (⟨.member target.value name, rest, hlt⟩ : Reading Expr s)))) :
    Answers scope (suffixes scope) target.rest (leaves (members scope target)) := by
  rw [members_member h hlt hp, h]
  refine .behind (.behind (hm.become ⟨fun s' x hs hx source target' ht => ?_, fun _ => whole_member⟩))
  have hlt' : s'.length < source.length := length_lt_of_rest [_, _] ht
  rw [members_member ht hlt' (ne_cons_of_head hp hs)]
  exact hx source ⟨.member target'.value name, s', hlt'⟩ rfl

theorem answers_call {target : Reading Expr s} {a b c : Span} {name : String} {rest : List Token}
    (h : target.rest = ⟨.dot, a⟩ :: ⟨.identifier name, b⟩ :: ⟨.leftParen, c⟩ :: rest)
    (hlt : rest.length < s.length)
    (ha : Answers scope (rows scope .paren) rest (leaves (arguments scope .paren rest)))
    (hm : ∀ args : Reading (List Expr) rest,
      Answers scope (suffixes scope) args.rest
        (leaves (members scope (⟨.call target.value name args.value, args.rest,
          Nat.lt_trans args.shorter hlt⟩ : Reading Expr s)))) :
    Answers scope (suffixes scope) target.rest (leaves (members scope target)) := by
  rw [members_call h hlt, leaves_bind, h]
  refine .behind (.behind (.behind (.bind (.of_result (fun _ _ h => h) ?_ ?_
    (fun _ _ => whole_call) ⟨[], whole_nil_suffixes⟩) ha fun args _ => hm args)))
  · intro s' e _ he source target' ht
    rw [members_call ht (length_lt_of_rest [_, _, _] ht), he]
    rfl
  · intro s' args y _ hargs hy source target' ht
    rw [members_call ht (length_lt_of_rest [_, _, _] ht), hargs]
    exact hy source ⟨.call target'.value name args.value, args.rest, _⟩ rfl

/-- A dot with a name or not, and the name with a parenthesis or not. -/
theorem answers_dot {target : Reading Expr s} {a : Span} {rest : List Token}
    (h : target.rest = ⟨.dot, a⟩ :: rest)
    (ha : ∀ (member : Reading String rest) (b : Span) (afterParen : List Token),
      member.rest = ⟨.leftParen, b⟩ :: afterParen →
      Answers scope (rows scope .paren) afterParen (leaves (arguments scope .paren afterParen)))
    (hc : ∀ (member : Reading String rest) (b : Span) (afterParen : List Token)
      (hm : member.rest = ⟨.leftParen, b⟩ :: afterParen) (args : Reading (List Expr) afterParen),
      Answers scope (suffixes scope) args.rest
        (leaves (members scope (⟨.call target.value member.value args.value, args.rest,
          Nat.lt_trans args.shorter
            (Nat.lt_trans (Reading.tail_shorter hm) (Reading.tail_shorter h))⟩ : Reading Expr s))))
    (hd : ∀ (member : Reading String rest) (afterName : List Token)
      (hm : member.rest = afterName),
      Answers scope (suffixes scope) afterName
        (leaves (members scope (⟨.member target.value member.value, afterName,
          hm ▸ Nat.lt_trans member.shorter (Reading.tail_shorter h)⟩ : Reading Expr s)))) :
    Answers scope (suffixes scope) target.rest (leaves (members scope target)) := by
  rcases behind_dot rest with ⟨n, b, c, t, rfl⟩ | ⟨n, b, u, rfl, hno⟩ | hno
  · let member : Reading String (⟨.identifier n, b⟩ :: ⟨.leftParen, c⟩ :: t) :=
      ⟨n, _, Nat.lt_succ_self _⟩
    exact answers_call h (length_lt_of_rest [_, _, _] h) (ha member c t rfl) (hc member c t rfl)
  · let member : Reading String (⟨.identifier n, b⟩ :: u) := ⟨n, u, Nat.lt_succ_self _⟩
    exact answers_member h (length_lt_of_rest [_, _] h) hno (hd member u rfl)
  · exact answers_noName h hno

/-! ## Primaries -/

/-- A primary of one token, whatever is behind it. -/
theorem answers_token {token : Token} {e : Expr} {t : List Token}
    (hw : Whole scope .primary [token])
    (hr : ∀ t', t'.head? = t.head? →
      primary scope (token :: t') = .ok ⟨e, t', Nat.lt_succ_self _⟩) :
    Answers scope (primaries scope) (token :: t) (leaves (primary scope (token :: t))) := by
  rw [hr t rfl]
  refine .took (p := [token]) hw fun t' ht => ?_
  show leaves (primary scope (token :: t')) = _
  rw [hr t' ht]
  rfl

theorem begins_primary : Begins (primaries scope).whole [] :=
  ⟨[⟨.wordNull, ⟨0, 0⟩⟩], whole_literal .wordNull⟩

/-- A token that no primary starts with. -/
theorem answers_unexpected {token : Token} {t : List Token} {e : ParseError}
    (he : e.span? = some token.span) (hn : ∀ name a, e ≠ .unbound name a)
    (hr : ∀ t', primary scope (token :: t') = .error e) :
    Answers scope (primaries scope) (token :: t) (leaves (primary scope (token :: t))) := by
  rw [hr t]
  exact .stopped (p := []) he hn begins_primary fun t' => leaves_eq_error.mpr (hr t')

theorem answers_unbound {a : Span} {name : String} {t : List Token} (hn : name ≠ scope.parameter)
    (hv : scope.bindings.get? name = none) (ht : NoParen t) :
    Answers scope (primaries scope) (⟨.identifier name, a⟩ :: t)
      (leaves (primary scope (⟨.identifier name, a⟩ :: t))) := by
  rw [primary_unbound hn hv ht]
  exact .unbound (p := []) hn hv ht begins_primary

theorem answers_close {α : Type} (r : Reading α s) :
    Answers scope (brackets closing) r.rest (leaves (close closing r)) := by
  by_cases hc : ∃ a t, r.rest = ⟨closing.kind, a⟩ :: t
  · obtain ⟨a, t, hr⟩ := hc
    have htake (β : Type) (t' source : List Token) (r' : Reading β source)
        (h : r'.rest = ⟨closing.kind, a⟩ :: t') : leaves (close closing r') = .ok t' :=
      leaves_eq_ok.mpr ⟨⟨r'.value, t', Reading.tail_shorter h⟩, close_eq_ok.mpr ⟨a, h, rfl⟩, rfl⟩
    rw [htake α t s r hr, hr]
    exact .took (p := [⟨closing.kind, a⟩]) ⟨a, rfl⟩ fun t' _ β source r' h => htake β t' source r' h
  · have hno : ∀ a t, r.rest ≠ ⟨closing.kind, a⟩ :: t := fun a t hr => hc ⟨a, t, hr⟩
    have hmiss (β : Type) (source : List Token) (r' : Reading β source)
        (h : r'.rest.head? = r.rest.head?) :
        leaves (close closing r') = .error (missing closing.kind r'.rest) :=
      leaves_eq_error.mpr (close_of_not_closing (ne_cons_of_head hno h))
    rw [hmiss α s r rfl]
    refine answers_missing _ ⟨[⟨closing.kind, ⟨0, 0⟩⟩], ⟨0, 0⟩, rfl⟩ ?_
    rintro _ h β source r' rfl
    exact hmiss β source r' h

theorem answers_paren {a : Span}
    (he : Answers scope (levels scope 6) s (leaves (expression scope s))) :
    Answers scope (primaries scope) (⟨.leftParen, a⟩ :: s)
      (leaves (primary scope (⟨.leftParen, a⟩ :: s))) := by
  have hparen (s' : List Token) : leaves (primary scope (⟨.leftParen, a⟩ :: s')) =
      expression scope s' >>= fun r => leaves (close .paren r) := by
    rw [primary_paren, leaves_bind]
    simp only [leaves_within]
  have hleads : Leads (levels scope 6) (brackets .paren)
      ((primaries scope).behind ⟨.leftParen, a⟩) s := by
    refine .of_result (fun _ _ h => leaves_expression.trans h) ?_ ?_ ?_
      ⟨[⟨.rightParen, ⟨0, 0⟩⟩], ⟨0, 0⟩, rfl⟩
    · intro s' e _ h
      show leaves (primary scope (⟨.leftParen, a⟩ :: s')) = _
      rw [hparen, h]
      rfl
    · intro s' r y _ h hy
      show leaves (primary scope (⟨.leftParen, a⟩ :: s')) = _
      rw [hparen, h]
      exact hy Expr s' r rfl
    · rintro p _ hp ⟨b, rfl⟩
      exact whole_paren hp
  rw [hparen]
  exact .behind (.bind hleads he fun r _ => answers_close r)

theorem answers_list {a : Span}
    (h : Answers scope (rows scope .bracket) s (leaves (arguments scope .bracket s))) :
    Answers scope (primaries scope) (⟨.leftBracket, a⟩ :: s)
      (leaves (primary scope (⟨.leftBracket, a⟩ :: s))) := by
  rw [primary_list, leaves_map]
  refine .behind (h.become ⟨fun s' x _ hx => ?_, fun _ => whole_list⟩)
  show leaves (primary scope (⟨.leftBracket, a⟩ :: s')) = x
  rw [primary_list, leaves_map]
  exact hx

theorem answers_static {a b : Span} {name : String} (hn : name ≠ scope.parameter)
    (h : Answers scope (rows scope .paren) s (leaves (arguments scope .paren s))) :
    Answers scope (primaries scope) (⟨.identifier name, a⟩ :: ⟨.leftParen, b⟩ :: s)
      (leaves (primary scope (⟨.identifier name, a⟩ :: ⟨.leftParen, b⟩ :: s))) := by
  rw [primary_static hn, leaves_map]
  refine .behind (.behind (h.become ⟨fun s' x _ hx => ?_, fun _ => whole_static hn⟩))
  show leaves (primary scope (⟨.identifier name, a⟩ :: ⟨.leftParen, b⟩ :: s')) = x
  rw [primary_static hn, leaves_map]
  exact hx

/-! ## Arguments -/

theorem answers_noArgs {a : Span} :
    Answers scope (rows scope closing) (⟨closing.kind, a⟩ :: s)
      (leaves (arguments scope closing (⟨closing.kind, a⟩ :: s))) := by
  rw [arguments_close]
  refine .took (p := [⟨closing.kind, a⟩]) (wholeArguments_nil closing a) fun t' _ => ?_
  show leaves (arguments scope closing (⟨closing.kind, a⟩ :: t')) = _
  rw [arguments_close]
  rfl

theorem answers_args (h : ∀ a rest, s ≠ ⟨closing.kind, a⟩ :: rest)
    (hi : Answers scope (itemRows scope closing) s (leaves (items scope closing s))) :
    Answers scope (rows scope closing) s (leaves (arguments scope closing s)) := by
  rw [arguments_items h]
  refine hi.become ⟨fun s' x hs hx => ?_, fun _ => wholeArguments_items⟩
  show leaves (arguments scope closing s') = x
  rw [arguments_items (ne_cons_of_head h hs)]
  exact hx

/-- Behind the first argument is a comma with the others, or the closing bracket. -/
theorem answers_moreArgs {first : Reading Expr s} (hf : expression scope s = .ok first)
    (hi : ∀ (a : Span) (rest : List Token), first.rest = ⟨.comma, a⟩ :: rest →
      Answers scope (itemRows scope closing) rest (leaves (items scope closing rest))) :
    Answers scope (moreRows scope closing) first.rest (leaves (items scope closing s)) := by
  by_cases hc : ∃ a rest, first.rest = ⟨.comma, a⟩ :: rest
  · obtain ⟨a, rest, hr⟩ := hc
    have hcomma (s' source : List Token) (first' : Reading Expr source)
        (hf : expression scope source = .ok first') (hr : first'.rest = ⟨.comma, a⟩ :: s') :
        leaves (items scope closing source) = leaves (items scope closing s') := by
      rw [items_next hf hr, leaves_map]
    rw [hcomma rest s first hf hr, hr]
    refine .behind ((hi a rest hr).become ⟨fun s' x _ hx source first' hf' hr' => ?_,
      fun _ => wholeMoreArguments_comma⟩)
    rw [hcomma s' source first' hf' hr']
    exact hx
  · have hno : ∀ a rest, first.rest ≠ ⟨.comma, a⟩ :: rest := fun a rest hr => hc ⟨a, rest, hr⟩
    have hclose (source : List Token) (first' : Reading Expr source)
        (hf : expression scope source = .ok first') (h : first'.rest.head? = first.rest.head?) :
        leaves (items scope closing source) = leaves (close closing (first'.map ([·]))) := by
      rw [items_last hf (ne_cons_of_head hno h)]
    rw [hclose s first hf rfl]
    refine (answers_close (first.map ([·]))).become ⟨?_, ?_⟩
    · rintro s' x h hx source first' hf' rfl
      rw [hclose source first' hf' h]
      exact hx (List Expr) source (first'.map ([·])) rfl
    · rintro _ ⟨a, rfl⟩
      exact wholeMoreArguments_nil closing a

theorem answers_items
    (he : Answers scope (levels scope 6) s (leaves (expression scope s)))
    (hi : ∀ (first : Reading Expr s) (a : Span) (rest : List Token),
      first.rest = ⟨.comma, a⟩ :: rest →
      Answers scope (itemRows scope closing) rest (leaves (items scope closing rest))) :
    Answers scope (itemRows scope closing) s (leaves (items scope closing s)) := by
  have hleads : Leads (levels scope 6) (moreRows scope closing) (itemRows scope closing) s := by
    refine .of_result (fun _ _ h => leaves_expression.trans h) ?_ ?_ (fun _ _ => wholeItems_append)
      ⟨_, wholeMoreArguments_nil closing ⟨0, 0⟩⟩
    · intro s' e _ h
      show leaves (items scope closing s') = _
      rw [items_bind, h]
      rfl
    · intro s' first y _ h hy
      exact hy s' first h rfl
  -- whether a comma follows is known only once the first argument has been read
  have hbind : leaves (items scope closing s) =
      expression scope s >>= fun _ => leaves (items scope closing s) := by
    rw [← leaves_bind, ← items_bind]
  rw [hbind]
  exact .bind hleads he fun first hf => answers_moreArgs hf (hi first)

/-! ## The parser -/

/-- Where a run on any tokens ends and why. -/
theorem answers_expression (scope : Scope) (s : List Token) :
    Answers scope (levels scope 6) s (leaves (expression scope s)) := by
  refine (expression.mutual_induct scope
    (fun s => Answers scope (levels scope 6) s (leaves (expression scope s)))
    (fun rank s => Answers scope (levels scope rank) s (leaves (binary scope rank s)))
    (fun rank _ left =>
      Answers scope (operations scope rank) left.rest (leaves (operands scope rank left)))
    (fun s => Answers scope (levels scope 0) s (leaves (unary scope s)))
    (fun _ target => Answers scope (suffixes scope) target.rest (leaves (members scope target)))
    (fun closing s => Answers scope (rows scope closing) s (leaves (arguments scope closing s)))
    (fun closing s => Answers scope (itemRows scope closing) s (leaves (items scope closing s)))
    (fun s => Answers scope (primaries scope) s (leaves (primary scope s))) ?_ ?_ ?_ ?_ ?_ ?_ ?_ ?_
    ?_ ?_ ?_ ?_ ?_ ?_ ?_ ?_ ?_ ?_ ?_ ?_ ?_ ?_ ?_ ?_ ?_).1 s
  -- expressions, operators and operands
  · intro s h
    rw [leaves_expression]
    exact h
  · exact fun s => answers_unary
  · exact fun s rank => answers_level
  · intro rank s left h
    refine answers_stop fun token ht => ?_
    rw [h] at ht
    cases ht
  · intro rank s left token rest h ho
    refine answers_stop fun token' ht => ?_
    rw [h] at ht
    cases ht
    exact ho
  · exact fun rank s left token rest h op => answers_next h
  · exact fun a s => answers_prefix (fun _ => leaves_unary_bang) fun _ => whole_bang
  · exact fun a s => answers_prefix (fun _ => leaves_unary_minus) fun _ => whole_minus
  · exact fun s => answers_suffixed
  -- members and calls
  · exact fun s target a rest => answers_dot
  · exact fun s target => answers_bare
  -- arguments
  · exact fun closing => answers_args fun _ _ h => by cases h
  · intro closing token tail h
    obtain ⟨a, rest, hs⟩ := isAt_iff.mp h
    rw [hs]
    exact answers_noArgs
  · exact fun closing token tail h => answers_args fun a rest hs => h (isAt_iff.mpr ⟨a, rest, hs⟩)
  · exact fun closing s => answers_items
  -- primaries
  · rw [primary]
    exact .ended rfl begins_primary
  · intro token tail v h
    have hv := literal?_eq_some.mp h
    exact answers_token (whole_literal hv) fun _ _ => primary_literal hv
  · rintro ⟨_, a⟩ tail - rfl
    exact answers_paren
  · rintro ⟨_, a⟩ tail - rfl
    exact answers_list
  · rintro ⟨_, a⟩ tail - rfl
    exact answers_token (whole_parameter rfl) fun _ _ => primary_parameter rfl
  · rintro ⟨_, a⟩ - name rfl h b tail
    exact answers_static h
  · rintro ⟨_, a⟩ - name rfl h rest hs v hv
    exact answers_token (whole_bound h hv) fun _ ht => primary_bound h hv (ne_cons_of_head hs ht)
  · rintro ⟨_, a⟩ - name rfl h rest hs hv
    exact answers_unbound h hv hs
  · rintro ⟨_, a⟩ tail - rfl
    refine answers_unexpected (e := .illegal a) rfl (fun _ _ h => by cases h) fun t => ?_
    rw [primary]
    rfl
  · rintro ⟨kind, a⟩ tail hl hparen hbracket hname hillegal
    exact answers_unexpected (e := .unexpected kind a) rfl (fun _ _ h => by cases h) fun t =>
      primary_unexpected hl hparen hbracket hname hillegal

end RecordQuery.Grammar
