import RecordQuery.Proofs.Lambda.Soundness

/-!
# What is derived the parser reads

The parser is greedy, so it reads what a derivation derives if the derivation ends where nothing
continues it (`Ends`). `Derivation.completes` says so for each category, by induction on derivations,
and `Derivation.unique` that there is only one derivation to such an end. `lambda_iff_derivation` puts
both directions together for whole lambdas.
-/

namespace RecordQuery.Grammar

open RecordQuery.Parser

variable {scope : Scope}

/-! ## Where derivations start and end -/

/-- Whether tokens do not continue an expression with operators up to a rank. -/
def Ends (rank : Nat) (s : List Token) : Prop :=
  ∀ token rest, s = token :: rest →
    token.kind ≠ .dot ∧ token.kind ≠ .leftParen ∧
      ∀ op : BinaryOp, token.kind = op.token → rank < op.rank

/-- Whether tokens start with a closing bracket. -/
def Closes (closing : Closing) (s : List Token) : Prop :=
  ∃ a rest, s = ⟨closing.kind, a⟩ :: rest

theorem Ends.mono {rank rank' : Nat} {s : List Token} (h : Ends rank' s) (hr : rank ≤ rank') :
    Ends rank s := by
  intro token rest hs
  obtain ⟨hd, hp, hop⟩ := h token rest hs
  exact ⟨hd, hp, fun op hk => Nat.lt_of_le_of_lt hr (hop op hk)⟩

theorem Ends.not_dot {rank : Nat} {a : Span} {s : List Token} (h : Ends rank (⟨.dot, a⟩ :: s)) :
    False :=
  (h _ _ rfl).1 rfl

theorem Ends.not_leftParen {rank : Nat} {a : Span} {s : List Token}
    (h : Ends rank (⟨.leftParen, a⟩ :: s)) : False :=
  (h _ _ rfl).2.1 rfl

/-- An operator of a rank continues an expression with operators up to that rank. -/
theorem Ends.not_operator {rank : Nat} {token : Token} {op : BinaryOp} {s : List Token}
    (h : Ends rank (token :: s)) (hk : token.kind = op.token) (hr : op.rank = rank) : False := by
  have hlt := (h token s rfl).2.2 op hk
  rw [hr] at hlt
  exact Nat.lt_irrefl rank hlt

theorem ends_nil (rank : Nat) : Ends rank [] := nofun

theorem Closes.ends {closing : Closing} {s : List Token} (h : Closes closing s) : Ends 6 s := by
  obtain ⟨a, rest, rfl⟩ := h
  intro token rest' hs
  obtain ⟨rfl, rfl⟩ := List.cons.inj hs
  cases closing <;> exact ⟨nofun, nofun, fun op hk => by cases op <;> cases hk⟩

theorem Closes.not_comma {closing : Closing} {a : Span} {s : List Token}
    (h : Closes closing (⟨.comma, a⟩ :: s)) : False := by
  obtain ⟨b, rest, hs⟩ := h
  cases closing <;> cases hs

theorem ends_comma {a : Span} {s : List Token} : Ends 6 (⟨.comma, a⟩ :: s) := by
  intro token rest hs
  obtain ⟨rfl, rfl⟩ := List.cons.inj hs
  exact ⟨nofun, nofun, fun op hk => by cases op <;> cases hk⟩

/-- An operand ends where the operators behind it start. -/
theorem Derivation.ends_operand {rank : Nat} {s t : List Token}
    (d : Derivation scope (.more rank) s t) (h : Ends (rank + 1) t) : Ends rank s := by
  cases d with
  | stop => exact h.mono (Nat.le_succ rank)
  | @next _ token op s _ _ hk hr _ _ =>
    intro token' rest hs
    obtain ⟨rfl, rfl⟩ := List.cons.inj hs
    rw [hk]
    refine ⟨by cases op <;> nofun, by cases op <;> nofun, fun op' hop => ?_⟩
    rw [← BinaryOp.token_injective hop, hr]
    exact Nat.lt_succ_self rank

/-- An argument ends where a comma or the closing bracket is. -/
theorem Derivation.ends_arg {closing : Closing} {s t : List Token}
    (d : Derivation scope .moreArgs s t) (h : Closes closing t) : Ends 6 s := by
  cases d with
  | lastArg => exact h.ends
  | nextArg => exact ends_comma

/-- Behind the name of a member is no parenthesis. -/
theorem Derivation.not_leftParen {s t : List Token} (d : Derivation scope .suffixes s t)
    (h : Ends 0 t) (a : Span) (rest : List Token) : s ≠ ⟨.leftParen, a⟩ :: rest := by
  rintro rfl
  cases d with
  | bare => exact h.not_leftParen

/-- A primary starts with neither a prefix nor a closing bracket. -/
theorem Derivation.primary_start {kind : TokenKind} {a : Span} {s t : List Token}
    (hk : kind = .bang ∨ kind = .minus ∨ kind = .rightParen ∨ kind = .rightBracket)
    (d : Derivation scope .primary (⟨kind, a⟩ :: s) t) : False := by
  rcases hk with rfl | rfl | rfl | rfl <;>
  · cases d with
    | literal h => cases h

/-- No expression starts with a closing bracket. -/
theorem Derivation.level_start {closing : Closing} {s : List Token} (h : Closes closing s) :
    ∀ {rank : Nat} {t : List Token}, Derivation scope (.level rank) s t → False
  | _ + 1, _, .level first _ => first.level_start h
  | 0, _, d => by
    obtain ⟨a, rest, rfl⟩ := h
    cases closing with
    | paren =>
      cases d with
      | suffixed target => exact target.primary_start (.inr (.inr (.inl rfl)))
    | bracket =>
      cases d with
      | suffixed target => exact target.primary_start (.inr (.inr (.inr rfl)))

/-! ## Completeness -/

/-- What a reader reads off tokens, and what it leaves. -/
def Reads {α : Type} {s : List Token} (x : Result α s) (v : α) (t : List Token) : Prop :=
  ∃ h, x = .ok ⟨v, t, h⟩

/-- A reader reads what is derived, if the derivation ends where nothing continues it. -/
def Completes (scope : Scope) :
    (category : Category) → List Token → List Token → category.Tree → Prop
  | .level rank, s, t, e => Ends rank t → Reads (binary scope rank s) e t
  | .more rank, s, t, others =>
    Ends (rank + 1) t → ∀ (source : List Token) (left : Reading Expr source), left.rest = s →
      Reads (operands scope rank left) (chain left.value others) t
  | .primary, s, t, e => Reads (primary scope s) e t
  | .suffixes, s, t, suffixes =>
    Ends 0 t → ∀ (source : List Token) (target : Reading Expr source), target.rest = s →
      Reads (members scope target) (access target.value suffixes) t
  | .args, s, t, es =>
    ∀ closing a rest, t = ⟨closing.kind, a⟩ :: rest → Reads (arguments scope closing s) es rest
  | .moreArgs, s, t, es =>
    ∀ closing a rest, t = ⟨closing.kind, a⟩ :: rest →
      ∀ (source : List Token) (first : Reading Expr source),
        expression scope source = .ok first → first.rest = s →
          Reads (items scope closing source) (first.value :: es) rest

theorem reads_expression {s t : List Token} {e : Expr} (h : Reads (binary scope 6 s) e t) :
    Reads (expression scope s) e t := by
  rw [expression_eq]
  exact h

theorem completes_level {rank : Nat} {s t u : List Token}
    (others : Derivation scope (.more rank) t u) {e : Expr} {es : List (BinaryOp × Expr)}
    (hf : Completes scope (.level rank) s t e) (ho : Completes scope (.more rank) t u es) :
    Completes scope (.level (rank + 1)) s u (chain e es) := by
  intro hu
  obtain ⟨hlt, hb⟩ := hf (others.ends_operand hu)
  rw [binary_succ, hb]
  exact ho hu s ⟨e, t, hlt⟩ rfl

theorem completes_next {rank : Nat} {token : Token} {op : BinaryOp} {s t u : List Token}
    (hk : token.kind = op.token) (hr : op.rank = rank + 1)
    (others : Derivation scope (.more rank) t u) {e : Expr} {es : List (BinaryOp × Expr)}
    (hf : Completes scope (.level rank) s t e) (ho : Completes scope (.more rank) t u es) :
    Completes scope (.more rank) (token :: s) u ((op, e) :: es) := by
  intro hu source left hleft
  obtain ⟨hlt, hb⟩ := hf (others.ends_operand hu)
  rw [operands_next hleft (operator?_eq_some.mpr ⟨hk, hr⟩), hb]
  exact ho hu source ⟨.binary op left.value e, t, _⟩ rfl

theorem completes_stop {rank : Nat} {s : List Token} : Completes scope (.more rank) s s [] := by
  intro hs source left hleft
  subst hleft
  rw [operands_stop]
  · exact ⟨left.shorter, rfl⟩
  · intro token rest hrest
    -- an operator of this rank would continue the expression
    cases ho : operator? (rank + 1) token.kind with
    | none => rfl
    | some op =>
      obtain ⟨hk, hr⟩ := operator?_eq_some.mp ho
      rw [hrest] at hs
      exact (hs.not_operator hk hr).elim

theorem completes_bang {a : Span} {s t : List Token} {e : Expr}
    (h : Completes scope (.level 0) s t e) :
    Completes scope (.level 0) (⟨.bang, a⟩ :: s) t (.not e) := by
  intro ht
  obtain ⟨hlt, hu⟩ := h ht
  rw [binary_zero] at hu
  rw [binary_zero, unary_bang, hu]
  exact ⟨Nat.lt_succ_of_lt hlt, rfl⟩

theorem completes_minus {a : Span} {s t : List Token} {e : Expr}
    (h : Completes scope (.level 0) s t e) :
    Completes scope (.level 0) (⟨.minus, a⟩ :: s) t e.minus := by
  intro ht
  obtain ⟨hlt, hu⟩ := h ht
  rw [binary_zero] at hu
  rw [binary_zero, unary_minus, hu, ← negated_eq_minus]
  exact ⟨Nat.lt_succ_of_lt hlt, rfl⟩

theorem completes_suffixed {s t u : List Token} (target : Derivation scope .primary s t) {e : Expr}
    {xs : List (String × Option (List Expr))} (hp : Completes scope .primary s t e)
    (hs : Completes scope .suffixes t u xs) : Completes scope (.level 0) s u (access e xs) := by
  intro hu
  obtain ⟨hlt, hprimary⟩ := hp
  rw [binary_zero, unary_other, hprimary]
  · exact hs hu s ⟨e, t, hlt⟩ rfl
  · rintro a rest rfl
    exact target.primary_start (.inl rfl)
  · rintro a rest rfl
    exact target.primary_start (.inr (.inl rfl))

theorem completes_bare {s : List Token} : Completes scope .suffixes s s [] := by
  intro hs source target htarget
  subst htarget
  rw [members_stop]
  · exact ⟨target.shorter, rfl⟩
  · intro a rest hrest
    rw [hrest] at hs
    exact hs.not_dot

theorem completes_member {a b : Span} {name : String} {s t : List Token}
    (others : Derivation scope .suffixes s t) {xs : List (String × Option (List Expr))}
    (ho : Completes scope .suffixes s t xs) :
    Completes scope .suffixes (⟨.dot, a⟩ :: ⟨.identifier name, b⟩ :: s) t ((name, none) :: xs) := by
  intro ht source target htarget
  have hlt : s.length < source.length := by
    have hshorter := target.shorter
    rw [htarget, List.length_cons, List.length_cons] at hshorter
    omega
  rw [members_member htarget hlt (others.not_leftParen ht)]
  exact ho ht source ⟨.member target.value name, s, hlt⟩ rfl

theorem completes_call {a b c d : Span} {name : String} {s t u : List Token} {es : List Expr}
    {xs : List (String × Option (List Expr))}
    (ha : Completes scope .args s (⟨.rightParen, d⟩ :: t) es)
    (ho : Completes scope .suffixes t u xs) :
    Completes scope .suffixes (⟨.dot, a⟩ :: ⟨.identifier name, b⟩ :: ⟨.leftParen, c⟩ :: s) u
      ((name, some es) :: xs) := by
  intro hu source target htarget
  have hlt : s.length < source.length := by
    have hshorter := target.shorter
    rw [htarget, List.length_cons, List.length_cons, List.length_cons] at hshorter
    omega
  obtain ⟨hargs, hread⟩ := ha .paren d t rfl
  rw [members_call htarget hlt, hread]
  exact ho hu source ⟨.call target.value name es, t, Nat.lt_trans hargs hlt⟩ rfl

theorem completes_paren {a b : Span} {s t : List Token} {e : Expr}
    (h : Completes scope (.level 6) s (⟨.rightParen, b⟩ :: t) e) :
    Completes scope .primary (⟨.leftParen, a⟩ :: s) t e := by
  have hcloses : Closes .paren (⟨.rightParen, b⟩ :: t) := ⟨b, t, rfl⟩
  obtain ⟨hlt, he⟩ := reads_expression (h hcloses.ends)
  have hshorter : t.length < s.length := Nat.lt_of_succ_lt hlt
  have hclose : close .paren (⟨e, ⟨.rightParen, b⟩ :: t, hlt⟩ : Reading Expr s) =
      .ok ⟨e, t, hshorter⟩ := close_eq_ok.mpr ⟨b, rfl, rfl⟩
  show Reads (primary scope (⟨.leftParen, a⟩ :: s)) e t
  rw [primary_paren, he]
  exact ⟨Nat.lt_succ_of_lt hshorter, by simp only [bind, Except.bind, hclose]; rfl⟩

theorem completes_list {a b : Span} {s t : List Token} {es : List Expr}
    (h : Completes scope .args s (⟨.rightBracket, b⟩ :: t) es) :
    Completes scope .primary (⟨.leftBracket, a⟩ :: s) t (.list es) := by
  obtain ⟨hlt, hread⟩ := h .bracket b t rfl
  show Reads (primary scope (⟨.leftBracket, a⟩ :: s)) (.list es) t
  rw [primary_list, hread]
  exact ⟨Nat.lt_succ_of_lt hlt, rfl⟩

theorem completes_static {a b c : Span} {name : String} {s t : List Token} {es : List Expr}
    (hn : name ≠ scope.parameter) (h : Completes scope .args s (⟨.rightParen, c⟩ :: t) es) :
    Completes scope .primary (⟨.identifier name, a⟩ :: ⟨.leftParen, b⟩ :: s) t
      (.staticCall name es) := by
  obtain ⟨hlt, hread⟩ := h .paren c t rfl
  show Reads (primary scope (⟨.identifier name, a⟩ :: ⟨.leftParen, b⟩ :: s)) _ t
  rw [primary_static hn, hread]
  exact ⟨Nat.lt_succ_of_lt (Nat.lt_succ_of_lt hlt), rfl⟩

theorem completes_noArgs {s : List Token} : Completes scope .args s s [] := by
  rintro closing a rest rfl
  rw [arguments_close]
  exact ⟨Nat.lt_succ_self _, rfl⟩

theorem completes_args {s t u : List Token} (first : Derivation scope (.level 6) s t)
    (others : Derivation scope .moreArgs t u) {e : Expr} {es : List Expr}
    (hf : Completes scope (.level 6) s t e) (ho : Completes scope .moreArgs t u es) :
    Completes scope .args s u (e :: es) := by
  intro closing a rest hu
  obtain ⟨hlt, he⟩ := reads_expression (hf (others.ends_arg ⟨a, rest, hu⟩))
  rw [arguments_items fun b tail hs => first.level_start ⟨b, tail, hs⟩]
  exact ho closing a rest hu s ⟨e, t, hlt⟩ he rfl

theorem completes_lastArg {s : List Token} : Completes scope .moreArgs s s [] := by
  rintro closing a rest hs source ⟨e, t, hlt⟩ he rfl
  cases hs
  have hshorter : rest.length < source.length := Nat.lt_of_succ_lt hlt
  have hclose : close closing (⟨[e], ⟨closing.kind, a⟩ :: rest, hlt⟩ : Reading (List Expr) source) =
      .ok ⟨[e], rest, hshorter⟩ := close_eq_ok.mpr ⟨a, rfl, rfl⟩
  rw [items_eq, he]
  refine ⟨hshorter, ?_⟩
  cases closing <;> exact hclose

theorem completes_nextArg {a : Span} {s t u : List Token}
    (others : Derivation scope .moreArgs t u) {e : Expr} {es : List Expr}
    (hf : Completes scope (.level 6) s t e) (ho : Completes scope .moreArgs t u es) :
    Completes scope .moreArgs (⟨.comma, a⟩ :: s) u (e :: es) := by
  rintro closing b rest hu source ⟨first, tail, hlt⟩ hfirst rfl
  obtain ⟨hlt', he⟩ := reads_expression (hf (others.ends_arg ⟨b, rest, hu⟩))
  obtain ⟨hrest, hitems⟩ := ho closing b rest hu s ⟨e, t, hlt'⟩ he rfl
  rw [items_eq, hfirst]
  refine ⟨Nat.lt_trans hrest (Nat.lt_of_succ_lt hlt), ?_⟩
  show (items scope closing s >>= fun others => _) = _
  rw [hitems]
  rfl

/-- Every derivation that ends where nothing continues it is what the parser reads. -/
theorem Derivation.completes {category : Category} {s t : List Token}
    (d : Derivation scope category s t) : Completes scope category s t d.tree := by
  induction d with
  | level _ others ihf iho => exact completes_level others ihf iho
  | stop => exact completes_stop
  | next hk hr _ others ihf iho => exact completes_next hk hr others ihf iho
  | bang _ ih => exact completes_bang ih
  | minus _ ih => exact completes_minus ih
  | suffixed target _ ihp ihs => exact completes_suffixed target ihp ihs
  | bare => exact completes_bare
  | member others ih => exact completes_member others ih
  | call _ _ iha iho => exact completes_call iha iho
  | literal h => exact ⟨Nat.lt_succ_self _, primary_literal h⟩
  | paren _ ih => exact completes_paren ih
  | list _ ih => exact completes_list ih
  | parameter h => exact ⟨Nat.lt_succ_self _, primary_parameter h⟩
  | static h _ ih => exact completes_static h ih
  | bound h hv hs => exact ⟨Nat.lt_succ_self _, primary_bound h hv hs⟩
  | noArgs => exact completes_noArgs
  | args first others ihf iho => exact completes_args first others ihf iho
  | lastArg => exact completes_lastArg
  | nextArg _ others ihf iho => exact completes_nextArg others ihf iho

/-! ## Uniqueness -/

/-- Whether nothing continues a derivation at its end. Arguments end at a closing bracket. -/
def EndsAt : Category → List Token → Prop
  | .level rank, t => Ends rank t
  | .more rank, t => Ends (rank + 1) t
  | .primary, _ => True
  | .suffixes, t => Ends 0 t
  | .args, t => ∃ closing, Closes closing t
  | .moreArgs, t => ∃ closing, Closes closing t

/-- A reader leaves one rest. -/
theorem Reads.rest_eq {α : Type} {s : List Token} {x : Result α s} {v v' : α} {t t' : List Token}
    (h : Reads x v t) (h' : Reads x v' t') : t = t' := by
  obtain ⟨hlt, hx⟩ := h
  obtain ⟨hlt', hx'⟩ := h'
  exact congrArg Reading.rest (Except.ok.inj (hx.symm.trans hx'))

theorem level_end {rank : Nat} {s t t' : List Token} (d : Derivation scope (.level rank) s t)
    (d' : Derivation scope (.level rank) s t') (h : Ends rank t) (h' : Ends rank t') : t = t' :=
  (d.completes h).rest_eq (d'.completes h')

theorem primary_end {s t t' : List Token} (d : Derivation scope .primary s t)
    (d' : Derivation scope .primary s t') : t = t' :=
  d.completes.rest_eq d'.completes

/-- A derivation leaves a part of its tokens. -/
theorem Derivation.suffix {category : Category} {s t : List Token}
    (d : Derivation scope category s t) : t <:+ s := by
  induction d with
  | level _ _ ihf iho => exact iho.trans ihf
  | stop => exact List.suffix_refl _
  | next _ _ _ _ ihr iho => exact (iho.trans ihr).trans (List.suffix_cons _ _)
  | bang _ ih => exact ih.trans (List.suffix_cons _ _)
  | minus _ ih => exact ih.trans (List.suffix_cons _ _)
  | suffixed _ _ iht ihs => exact ihs.trans iht
  | bare => exact List.suffix_refl _
  | member _ ih => exact ih.trans ⟨[_, _], rfl⟩
  | call _ _ iha iho => exact ((iho.trans (List.suffix_cons _ _)).trans iha).trans ⟨[_, _, _], rfl⟩
  | literal => exact List.suffix_cons _ _
  | paren _ ih => exact ((List.suffix_cons _ _).trans ih).trans (List.suffix_cons _ _)
  | list _ ih => exact ((List.suffix_cons _ _).trans ih).trans (List.suffix_cons _ _)
  | parameter => exact List.suffix_cons _ _
  | static _ _ ih => exact ((List.suffix_cons _ _).trans ih).trans ⟨[_, _], rfl⟩
  | bound => exact List.suffix_cons _ _
  | noArgs => exact List.suffix_refl _
  | args _ _ ihf iho => exact iho.trans ihf
  | lastArg => exact List.suffix_refl _
  | nextArg _ _ iha iho => exact (iho.trans iha).trans (List.suffix_cons _ _)

/-- Arguments end at one closing bracket. The parser leaves what is behind it, and the bracket itself
is the token before that. -/
theorem args_end (closing : Closing) {a a' : Span} {s t t' : List Token}
    (d : Derivation scope .args s (⟨closing.kind, a⟩ :: t))
    (d' : Derivation scope .args s (⟨closing.kind, a'⟩ :: t')) : a = a' ∧ t = t' := by
  obtain rfl := (d.completes closing a t rfl).rest_eq (d'.completes closing a' t' rfl)
  have hsuffix := List.suffix_of_suffix_length_le d.suffix d'.suffix (Nat.le_refl _)
  have heq := hsuffix.eq_of_length rfl
  cases heq
  exact ⟨rfl, rfl⟩

/-- There is one derivation from tokens to where nothing continues it. -/
theorem Derivation.unique {category : Category} {s t : List Token}
    (d d' : Derivation scope category s t) (h : EndsAt category t) : d = d' := by
  induction d with
  | level first others ihf iho =>
    cases d' with
    | level first' others' =>
      have he := others.ends_operand h
      obtain rfl := level_end first first' he (others'.ends_operand h)
      rw [ihf first' he, iho others' h]
  | stop =>
    cases d' with
    | stop => rfl
    | next hk hr => exact (Ends.not_operator h hk hr).elim
  | next hk hr right others ihr iho =>
    cases d' with
    | stop => exact (Ends.not_operator h hk hr).elim
    | next hk' hr' right' others' =>
      obtain rfl := BinaryOp.token_injective (hk.symm.trans hk')
      have he := others.ends_operand h
      obtain rfl := level_end right right' he (others'.ends_operand h)
      rw [ihr right' he, iho others' h]
  | bang operand ih =>
    cases d' with
    | bang operand' => rw [ih operand' h]
    | suffixed target => exact (target.primary_start (.inl rfl)).elim
  | minus operand ih =>
    cases d' with
    | minus operand' => rw [ih operand' h]
    | suffixed target => exact (target.primary_start (.inr (.inl rfl))).elim
  | suffixed target suffixes iht ihs =>
    cases d' with
    | bang => exact (target.primary_start (.inl rfl)).elim
    | minus => exact (target.primary_start (.inr (.inl rfl))).elim
    | suffixed target' suffixes' =>
      obtain rfl := primary_end target target'
      rw [iht target' trivial, ihs suffixes' h]
  | bare =>
    cases d' with
    | bare => rfl
    | member => exact (Ends.not_dot h).elim
    | call => exact (Ends.not_dot h).elim
  | member others ih =>
    cases d' with
    | bare => exact (Ends.not_dot h).elim
    | member others' => rw [ih others' h]
    | call => exact absurd rfl (others.not_leftParen h _ _)
  | call args others iha iho =>
    cases d' with
    | bare => exact (Ends.not_dot h).elim
    | member others' => exact absurd rfl (others'.not_leftParen h _ _)
    | call args' others' =>
      obtain ⟨rfl, rfl⟩ := args_end .paren args args'
      rw [iha args' ⟨.paren, _, _, rfl⟩, iho others' h]
  | literal hl =>
    cases d' with
    | literal hl' =>
      obtain rfl := hl.unique hl'
      rfl
    | _ => cases hl
  | paren inner ih =>
    cases d' with
    | literal hl => cases hl
    | paren inner' =>
      have hc (b : Span) (t : List Token) : Closes .paren (⟨.rightParen, b⟩ :: t) := ⟨b, t, rfl⟩
      cases level_end inner inner' (hc _ _).ends (hc _ _).ends
      rw [ih inner' (hc _ _).ends]
  | list items ih =>
    cases d' with
    | literal hl => cases hl
    | list items' =>
      obtain ⟨rfl, -⟩ := args_end .bracket items items'
      rw [ih items' ⟨.bracket, _, _, rfl⟩]
  | parameter hn =>
    cases d' with
    | literal hl => cases hl
    | parameter => rfl
    | static hn' => exact absurd hn hn'
    | bound hn' => exact absurd hn hn'
  | static hn args ih =>
    cases d' with
    | literal hl => cases hl
    | parameter hn' => exact absurd hn' hn
    | static _ args' =>
      obtain ⟨rfl, -⟩ := args_end .paren args args'
      rw [ih args' ⟨.paren, _, _, rfl⟩]
    | bound _ _ hs => exact absurd rfl (hs _ _)
  | bound hn hv hs =>
    cases d' with
    | literal hl => cases hl
    | parameter hn' => exact absurd hn' hn
    | static => exact absurd rfl (hs _ _)
    | bound _ hv' =>
      obtain rfl := Option.some.inj (hv.symm.trans hv')
      rfl
  | noArgs =>
    cases d' with
    | noArgs => rfl
    | args first => exact (h.elim fun _ hc => first.level_start hc).elim
  | args first others ihf iho =>
    obtain ⟨closing, hc⟩ := h
    cases d' with
    | noArgs => exact (first.level_start hc).elim
    | args first' others' =>
      have he := others.ends_arg hc
      obtain rfl := level_end first first' he (others'.ends_arg hc)
      rw [ihf first' he, iho others' ⟨closing, hc⟩]
  | lastArg =>
    cases d' with
    | lastArg => rfl
    | nextArg => exact (h.elim fun _ hc => hc.not_comma).elim
  | nextArg arg others iha iho =>
    obtain ⟨closing, hc⟩ := h
    cases d' with
    | lastArg => exact hc.not_comma.elim
    | nextArg arg' others' =>
      have he := others.ends_arg hc
      obtain rfl := level_end arg arg' he (others'.ends_arg hc)
      rw [iha arg' he, iho others' ⟨closing, hc⟩]

/-! ## Lambdas -/

theorem LambdaDerivation.unique {bindings : Fields Value} {s : List Token}
    (d d' : LambdaDerivation bindings s) : d = d' := by
  cases d with
  | lambda body =>
    cases d' with
    | lambda body' => rw [body.unique body' (ends_nil 6)]

theorem LambdaDerivation.parsed {bindings : Fields Value} {s : List Token}
    (d : LambdaDerivation bindings s) : Parser.lambda bindings s = .ok d.lambdaOf := by
  cases d with
  | @lambda _ _ name _ body =>
    obtain ⟨hlt, he⟩ := reads_expression (body.completes (ends_nil 6))
    simp only [Parser.lambda, Parser.name, arrow, bind, Except.bind, he]
    rfl

theorem exists_lambdaDerivation {bindings : Fields Value} {s : List Token} {l : Lambda}
    (h : Parser.lambda bindings s = .ok l) : ∃ d : LambdaDerivation bindings s, d.lambdaOf = l := by
  obtain ⟨⟨name, rest, _⟩, hname, h⟩ := bind_eq_ok.mp h
  obtain ⟨a, hs⟩ := name_eq_ok.mp hname
  change s = ⟨.identifier name, a⟩ :: rest at hs
  subst hs
  obtain ⟨tail, harrow, h⟩ := bind_eq_ok.mp h
  obtain ⟨b, hrest⟩ := arrow_eq_ok.mp harrow
  change rest = ⟨.arrow, b⟩ :: tail at hrest
  subst hrest
  obtain ⟨⟨e, left, _⟩, hbody, h⟩ := bind_eq_ok.mp h
  obtain ⟨body, hd⟩ := expression_sound _ _ _ hbody
  cases left with
  | nil =>
    cases h
    exact ⟨.lambda body, congrArg (Lambda.mk name) hd⟩
  | cons token left => cases h

/-- The parser accepts exactly the grammar of lambdas and returns what the one derivation stands for. -/
theorem lambda_iff_derivation (bindings : Fields Value) (s : List Token) :
    (∀ l, Parser.lambda bindings s = .ok l ↔
      ∃ d : LambdaDerivation bindings s, d.lambdaOf = l) ∧
    ∀ d d' : LambdaDerivation bindings s, d = d' := by
  refine ⟨fun l => ⟨exists_lambdaDerivation, ?_⟩, LambdaDerivation.unique⟩
  rintro ⟨d, rfl⟩
  exact d.parsed

end RecordQuery.Grammar
