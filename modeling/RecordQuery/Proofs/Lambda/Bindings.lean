import RecordQuery.Proofs.Lambda.Branches

/-!
# What a lambda takes from its bindings

Two runs of the parser on the same tokens, with the same parameter and different bindings. Either they
end in the same way, or the bindings differ at a name among the tokens that is not the parameter
(`Alike`). In the second case the first run fails at that name if it means nothing to it. `Alike.bind`
puts two steps of both runs in a row, one lemma for each branch of the parser uses it, and
`alike_expression` puts them together by induction along the calls of the first run.

So more bindings change no lambda that has been read, and the bindings of other names change nothing
(`Lambda.parse_bindings`).
-/

namespace RecordQuery

namespace Parser

/-! ## Two runs in step -/

/-- What two runs on the same tokens have to do with each other. -/
inductive Alike (scope scope' : Scope) (s : List Token) {α : Type} {source : List Token}
    (x x' : Result α source) : Prop
  /-- They end in the same way. -/
  | same (h : x = x') (hr : ∀ r, x = .ok r → r.rest <:+ s)
  /-- They meet a name that does not mean the same to both. -/
  | apart {name : String} {a : Span} (ht : ⟨.identifier name, a⟩ ∈ s) (hp : name ≠ scope.parameter)
      (hne : scope.bindings.get? name ≠ scope'.bindings.get? name)
      (hu : scope.bindings.get? name = none → x = .error (.unbound name a))

section Alike

variable {scope scope' : Scope} {s t source source' : List Token} {α β : Type}

theorem Alike.ok {r : Reading α source} (h : r.rest <:+ s) : Alike scope scope' s (.ok r) (.ok r) := by
  refine .same rfl fun r' hr => ?_
  cases hr
  exact h

theorem Alike.error {e : ParseError} :
    Alike scope scope' s (.error e : Result α source) (.error e) :=
  .same rfl nofun

/-- Runs on the rest of some tokens are runs on the tokens. -/
theorem Alike.mono {x x' : Result α source} (h : Alike scope scope' t x x') (hs : t <:+ s) :
    Alike scope scope' s x x' := by
  cases h with
  | same h hr => exact .same h fun r hx => (hr r hx).trans hs
  | apart ht hp hne hu => exact .apart (hs.subset ht) hp hne hu

/-- Two steps in a row, the second on what the first leaves. -/
theorem Alike.bind {x x' : Result α source} {f f' : Reading α source → Result β source'}
    (h : Alike scope scope' s x x')
    (hf : ∀ r, x = .ok r → x' = .ok r → Alike scope scope' r.rest (f r) (f' r)) :
    Alike scope scope' s (x >>= f) (x' >>= f') := by
  cases h with
  | same h hr =>
    subst h
    cases x with
    | error e => exact .error
    | ok r => exact (hf r rfl rfl).mono (hr r rfl)
  | apart ht hp hne hu =>
    refine .apart ht hp hne fun hn => ?_
    rw [hu hn]
    rfl

/-- What is done with the value alone changes nothing. -/
theorem Alike.map {x x' : Result α source} {f : Reading α source → Reading β source'}
    (h : Alike scope scope' s x x') (hf : ∀ r, (f r).rest = r.rest) :
    Alike scope scope' s (x >>= fun r => .ok (f r)) (x' >>= fun r => .ok (f r)) :=
  h.bind fun r _ _ => .ok (hf r ▸ List.suffix_refl _)

theorem Alike.behind {x x' : Result α source} {token : Token} (h : Alike scope scope' s x x') :
    Alike scope scope' (token :: s) x x' :=
  h.mono (List.suffix_cons _ _)

theorem Alike.close {closing : Closing} {r : Reading α source} :
    Alike scope scope' r.rest (close closing r) (close closing r) := by
  refine .same rfl fun r' hr => ?_
  obtain ⟨a, hrest, -⟩ := close_eq_ok.mp hr
  rw [hrest]
  exact List.suffix_cons _ _

end Alike

/-! ## The branches -/

section Branches

variable {scope scope' : Scope} {rank : Nat} {closing : Closing} {s : List Token}

theorem alike_level
    (hb : Alike scope scope' s (binary scope rank s) (binary scope' rank s))
    (ho : ∀ left : Reading Expr s,
      Alike scope scope' left.rest (operands scope rank left) (operands scope' rank left)) :
    Alike scope scope' s (binary scope (rank + 1) s) (binary scope' (rank + 1) s) := by
  rw [binary_succ, binary_succ]
  exact hb.bind fun left _ _ => ho left

theorem alike_stop {left : Reading Expr s}
    (h : ∀ token rest, left.rest = token :: rest → operator? (rank + 1) token.kind = none) :
    Alike scope scope' left.rest (operands scope rank left) (operands scope' rank left) := by
  rw [operands_stop h, operands_stop h]
  exact .ok (List.suffix_refl _)

theorem alike_next {left : Reading Expr s} {token : Token} {rest : List Token} {op : BinaryOp}
    (h : left.rest = token :: rest) (ho : operator? (rank + 1) token.kind = some op)
    (hb : Alike scope scope' rest (binary scope rank rest) (binary scope' rank rest))
    (hm : ∀ right : Reading Expr rest,
      let more : Reading Expr s := ⟨.binary op left.value right.value, right.rest,
        Nat.lt_trans right.shorter (Reading.tail_shorter h)⟩
      Alike scope scope' right.rest (operands scope rank more) (operands scope' rank more)) :
    Alike scope scope' left.rest (operands scope rank left) (operands scope' rank left) := by
  rw [operands_next h ho, operands_next h ho, h]
  exact (hb.bind fun right _ _ => hm right).behind

theorem alike_bang {a : Span} (h : Alike scope scope' s (unary scope s) (unary scope' s)) :
    Alike scope scope' (⟨.bang, a⟩ :: s) (unary scope (⟨.bang, a⟩ :: s))
      (unary scope' (⟨.bang, a⟩ :: s)) := by
  rw [unary_bang, unary_bang]
  exact .behind (.map h fun _ => rfl)

theorem alike_minus {a : Span} (h : Alike scope scope' s (unary scope s) (unary scope' s)) :
    Alike scope scope' (⟨.minus, a⟩ :: s) (unary scope (⟨.minus, a⟩ :: s))
      (unary scope' (⟨.minus, a⟩ :: s)) := by
  rw [unary_minus, unary_minus]
  exact .behind (.map h fun _ => rfl)

theorem alike_suffixed (hb : ∀ a rest, s ≠ ⟨.bang, a⟩ :: rest)
    (hm : ∀ a rest, s ≠ ⟨.minus, a⟩ :: rest)
    (hp : Alike scope scope' s (primary scope s) (primary scope' s))
    (hs : ∀ target : Reading Expr s,
      Alike scope scope' target.rest (members scope target) (members scope' target)) :
    Alike scope scope' s (unary scope s) (unary scope' s) := by
  rw [unary_other hb hm, unary_other hb hm]
  exact hp.bind fun target _ _ => hs target

theorem alike_bare {target : Reading Expr s} (h : ∀ a rest, target.rest ≠ ⟨.dot, a⟩ :: rest) :
    Alike scope scope' target.rest (members scope target) (members scope' target) := by
  rw [members_stop h, members_stop h]
  exact .ok (List.suffix_refl _)

/-- A dot with a name or not, and the name with a parenthesis or not. -/
theorem alike_dot {target : Reading Expr s} {a : Span} {rest : List Token}
    (h : target.rest = ⟨.dot, a⟩ :: rest)
    (ha : ∀ (member : Reading String rest) (b : Span) (afterParen : List Token),
      member.rest = ⟨.leftParen, b⟩ :: afterParen →
      Alike scope scope' afterParen (arguments scope .paren afterParen)
        (arguments scope' .paren afterParen))
    (hc : ∀ (member : Reading String rest) (b : Span) (afterParen : List Token)
      (hm : member.rest = ⟨.leftParen, b⟩ :: afterParen) (args : Reading (List Expr) afterParen),
      let called : Reading Expr s := ⟨.call target.value member.value args.value, args.rest,
        Nat.lt_trans args.shorter
          (Nat.lt_trans (Reading.tail_shorter hm) (Reading.tail_shorter h))⟩
      Alike scope scope' args.rest (members scope called) (members scope' called))
    (hd : ∀ (member : Reading String rest) (afterName : List Token) (hm : member.rest = afterName),
      let named : Reading Expr s := ⟨.member target.value member.value, afterName,
        hm ▸ Nat.lt_trans member.shorter (Reading.tail_shorter h)⟩
      Alike scope scope' afterName (members scope named) (members scope' named)) :
    Alike scope scope' target.rest (members scope target) (members scope' target) := by
  rcases behind_dot rest with ⟨n, b, c, t, rfl⟩ | ⟨n, b, u, rfl, hno⟩ | hno
  · let member : Reading String (⟨.identifier n, b⟩ :: ⟨.leftParen, c⟩ :: t) :=
      ⟨n, _, Nat.lt_succ_self _⟩
    have hlt : t.length < s.length :=
      Nat.lt_of_succ_lt (Nat.lt_trans member.shorter (Reading.tail_shorter h))
    rw [members_call h hlt, members_call h hlt, h]
    exact ((ha member c t rfl).bind fun args _ _ => hc member c t rfl args).behind.behind.behind
  · let member : Reading String (⟨.identifier n, b⟩ :: u) := ⟨n, u, Nat.lt_succ_self _⟩
    have hlt : u.length < s.length := Nat.lt_trans member.shorter (Reading.tail_shorter h)
    rw [members_member h hlt hno, members_member h hlt hno, h]
    exact (hd member u rfl).behind.behind
  · rw [members_noName h hno, members_noName h hno]
    exact .error

theorem alike_paren {a : Span} (h : Alike scope scope' s (expression scope s) (expression scope' s)) :
    Alike scope scope' (⟨.leftParen, a⟩ :: s) (primary scope (⟨.leftParen, a⟩ :: s))
      (primary scope' (⟨.leftParen, a⟩ :: s)) := by
  rw [primary_paren, primary_paren]
  exact .behind (.bind h fun r _ _ => .map .close fun _ => rfl)

theorem alike_list {a : Span}
    (h : Alike scope scope' s (arguments scope .bracket s) (arguments scope' .bracket s)) :
    Alike scope scope' (⟨.leftBracket, a⟩ :: s) (primary scope (⟨.leftBracket, a⟩ :: s))
      (primary scope' (⟨.leftBracket, a⟩ :: s)) := by
  rw [primary_list, primary_list]
  exact .behind (.map h fun _ => rfl)

theorem alike_static {a b : Span} {name : String} (hp : scope'.parameter = scope.parameter)
    (hn : name ≠ scope.parameter)
    (h : Alike scope scope' s (arguments scope .paren s) (arguments scope' .paren s)) :
    Alike scope scope' (⟨.identifier name, a⟩ :: ⟨.leftParen, b⟩ :: s)
      (primary scope (⟨.identifier name, a⟩ :: ⟨.leftParen, b⟩ :: s))
      (primary scope' (⟨.identifier name, a⟩ :: ⟨.leftParen, b⟩ :: s)) := by
  rw [primary_static hn, primary_static (hp ▸ hn)]
  exact .behind (.behind (.map h fun _ => rfl))

/-- A name that is not the parameter and is not called is the only place where bindings are used. -/
theorem alike_name {a : Span} {name : String} (hp : scope'.parameter = scope.parameter)
    (hn : name ≠ scope.parameter) (hs : ∀ b t, s ≠ ⟨.leftParen, b⟩ :: t) :
    Alike scope scope' (⟨.identifier name, a⟩ :: s) (primary scope (⟨.identifier name, a⟩ :: s))
      (primary scope' (⟨.identifier name, a⟩ :: s)) := by
  have hn' : name ≠ scope'.parameter := hp ▸ hn
  by_cases heq : scope.bindings.get? name = scope'.bindings.get? name
  · cases hv : scope.bindings.get? name with
    | some v =>
      rw [primary_bound hn hv hs, primary_bound hn' (heq ▸ hv) hs]
      exact .ok (List.suffix_cons _ _)
    | none =>
      rw [primary_unbound hn hv hs, primary_unbound hn' (heq ▸ hv) hs]
      exact .error
  · exact .apart List.mem_cons_self hn heq fun hv => primary_unbound hn hv hs

theorem alike_args (h : ∀ a rest, s ≠ ⟨closing.kind, a⟩ :: rest)
    (hi : Alike scope scope' s (items scope closing s) (items scope' closing s)) :
    Alike scope scope' s (arguments scope closing s) (arguments scope' closing s) := by
  rw [arguments_items h, arguments_items h]
  exact hi

theorem alike_items
    (he : Alike scope scope' s (expression scope s) (expression scope' s))
    (hi : ∀ (first : Reading Expr s) (a : Span) (rest : List Token),
      first.rest = ⟨.comma, a⟩ :: rest →
      Alike scope scope' rest (items scope closing rest) (items scope' closing rest)) :
    Alike scope scope' s (items scope closing s) (items scope' closing s) := by
  -- what follows the first argument decides how both runs go on
  rw [@items_bind scope, @items_bind scope']
  refine he.bind fun first hf hf' => ?_
  by_cases hc : ∃ a rest, first.rest = ⟨.comma, a⟩ :: rest
  · obtain ⟨a, rest, hr⟩ := hc
    rw [items_next hf hr, items_next hf' hr, hr]
    exact .behind (.map (hi first a rest hr) fun _ => rfl)
  · have hno : ∀ a rest, first.rest ≠ ⟨.comma, a⟩ :: rest := fun a rest hr => hc ⟨a, rest, hr⟩
    rw [items_last hf hno, items_last hf' hno]
    show Alike scope scope' (first.map ([·])).rest _ _
    exact .close

end Branches

/-! ## The parser -/

/-- Two runs of the parser with one parameter. -/
theorem alike_expression (scope scope' : Scope) (hp : scope'.parameter = scope.parameter)
    (s : List Token) : Alike scope scope' s (expression scope s) (expression scope' s) := by
  refine (expression.mutual_induct scope
    (fun s => Alike scope scope' s (expression scope s) (expression scope' s))
    (fun rank s => Alike scope scope' s (binary scope rank s) (binary scope' rank s))
    (fun rank _ left =>
      Alike scope scope' left.rest (operands scope rank left) (operands scope' rank left))
    (fun s => Alike scope scope' s (unary scope s) (unary scope' s))
    (fun _ target => Alike scope scope' target.rest (members scope target) (members scope' target))
    (fun closing s => Alike scope scope' s (arguments scope closing s) (arguments scope' closing s))
    (fun closing s => Alike scope scope' s (items scope closing s) (items scope' closing s))
    (fun s => Alike scope scope' s (primary scope s) (primary scope' s)) ?_ ?_ ?_ ?_ ?_ ?_ ?_ ?_ ?_
    ?_ ?_ ?_ ?_ ?_ ?_ ?_ ?_ ?_ ?_ ?_ ?_ ?_ ?_ ?_ ?_).1 s
  -- expressions, operators and operands
  · intro s h
    rw [expression_eq, expression_eq]
    exact h
  · intro s h
    rw [binary_zero, binary_zero]
    exact h
  · exact fun s rank => alike_level
  · intro rank s left h
    refine alike_stop fun token rest hr => ?_
    rw [h] at hr
    cases hr
  · intro rank s left token rest h ho
    refine alike_stop fun token' rest' hr => ?_
    obtain ⟨rfl, -⟩ := List.cons.inj (h.symm.trans hr)
    exact ho
  · exact fun rank s left token rest h op => alike_next h
  · exact fun a s => alike_bang
  · exact fun a s => alike_minus
  · exact fun s => alike_suffixed
  -- members and calls
  · exact fun s target a rest => alike_dot
  · exact fun s target => alike_bare
  -- arguments
  · exact fun closing => alike_args fun _ _ => nofun
  · intro closing token tail h
    obtain ⟨a, rest, hs⟩ := isAt_iff.mp h
    rw [hs, arguments_close, arguments_close]
    exact .ok (List.suffix_cons _ _)
  · exact fun closing token tail h => alike_args fun a rest hs => h (isAt_iff.mpr ⟨a, rest, hs⟩)
  · exact fun closing s => alike_items
  -- primaries, of which only the names depend on the bindings
  · rw [primary, primary]
    exact .error
  · intro token tail v h
    have hv := literal?_eq_some.mp h
    rw [primary_literal hv, primary_literal hv]
    exact .ok (List.suffix_cons _ _)
  · rintro ⟨_, a⟩ tail - rfl
    exact alike_paren
  · rintro ⟨_, a⟩ tail - rfl
    exact alike_list
  · rintro ⟨_, a⟩ tail - rfl
    rw [primary_parameter rfl, primary_parameter hp.symm]
    exact .ok (List.suffix_cons _ _)
  · rintro ⟨_, a⟩ - name rfl h b tail
    exact alike_static hp h
  · rintro ⟨_, a⟩ - name rfl h rest hs v -
    exact alike_name hp h hs
  · rintro ⟨_, a⟩ - name rfl h rest hs -
    exact alike_name hp h hs
  · rintro ⟨_, a⟩ tail - rfl
    rw [primary, primary]
    exact .error
  · rintro ⟨kind, a⟩ tail hl hparen hbracket hname hillegal
    rw [primary_unexpected hl hparen hbracket hname hillegal,
      primary_unexpected hl hparen hbracket hname hillegal]
    exact .error

/-! ## Lambdas -/

/-- The name at the start of a lambda. -/
def parameter? : List Token → Option String
  | ⟨.identifier s, _⟩ :: _ => some s
  | _ => none

/-- A lambda has a name among its tokens that is not its parameter. -/
def Mentions (s : List Token) (name : String) : Prop :=
  (∃ a, ⟨.identifier name, a⟩ ∈ s) ∧ parameter? s ≠ some name

variable {bindings bindings' : Fields Value} {s : List Token}

theorem parameter?_of_lambda {l : Lambda} (h : lambda bindings s = .ok l) :
    parameter? s = some l.parameter := by
  obtain ⟨parameter, hname, h⟩ := bind_eq_ok.mp h
  obtain ⟨rest, -, h⟩ := bind_eq_ok.mp h
  obtain ⟨body, -, h⟩ := bind_eq_ok.mp h
  obtain ⟨a, hs⟩ := name_eq_ok.mp hname
  split at h
  · cases h
    exact congrArg parameter? hs
  · cases h

/-- Two runs on a lambda end in the same way, or the bindings differ at a name that it mentions. -/
theorem lambda_eq_or_mentions (bindings bindings' : Fields Value) (s : List Token) :
    lambda bindings s = lambda bindings' s ∨
      ∃ name, Mentions s name ∧ bindings.get? name ≠ bindings'.get? name ∧
        (bindings.get? name = none → ∃ a, lambda bindings s = .error (.unbound name a)) := by
  unfold lambda
  cases hname : name s with
  | error e => exact .inl rfl
  | ok parameter =>
    obtain ⟨a, hs⟩ := name_eq_ok.mp hname
    cases harrow : arrow parameter.rest with
    | error e =>
      left
      simp only [bind, Except.bind, harrow]
    | ok rest =>
      obtain ⟨b, hrest⟩ := arrow_eq_ok.mp harrow
      rcases alike_expression ⟨parameter.value, bindings⟩ ⟨parameter.value, bindings'⟩ rfl rest with
        ⟨h, -⟩ | ⟨ht, hp, hne, hu⟩
      · left
        simp only [bind, Except.bind, harrow, h]
      · rename_i name c
        refine .inr ⟨name, ⟨⟨c, ?_⟩, ?_⟩, hne, fun hn => ⟨c, ?_⟩⟩
        · rw [hs, hrest]
          exact List.mem_cons_of_mem _ (List.mem_cons_of_mem _ ht)
        · rw [hs]
          exact fun h => hp (Option.some.inj h).symm
        · simp only [bind, Except.bind, harrow, hu hn]

end Parser

/-- More bindings give the same lambda, and bindings that agree on what a text mentions give the same
result. -/
theorem Lambda.parse_bindings (text : String) (bindings bindings' : Fields Value) :
    (∀ l, Lambda.parse text bindings = .ok l →
      (∀ name v, name ≠ l.parameter → bindings.get? name = some v → bindings'.get? name = some v) →
      Lambda.parse text bindings' = .ok l) ∧
    ((∀ name, Parser.Mentions (Lexer.tokens text) name →
        bindings.get? name = bindings'.get? name) →
      Lambda.parse text bindings = Lambda.parse text bindings') := by
  unfold Lambda.parse
  rcases Parser.lambda_eq_or_mentions bindings bindings' (Lexer.tokens text) with
    h | ⟨name, hm, hne, hu⟩
  · exact ⟨fun l hl _ => h ▸ hl, fun _ => h⟩
  · refine ⟨fun l hl hmore => ?_, fun hsame => absurd (hsame name hm) hne⟩
    have hp : name ≠ l.parameter := by
      rintro rfl
      exact hm.2 (Parser.parameter?_of_lambda hl)
    cases hv : bindings.get? name with
    | some v => exact absurd (hv.trans (hmore name v hp hv).symm) hne
    | none =>
      obtain ⟨a, he⟩ := hu hv
      cases hl.symm.trans he

/-- A lambda with a bound name behind a minus and a call of a name. -/
def bounded : String := "x => x.a > -n && f(x)"

/-- What `bounded` is where the name in it is bound to 18. -/
def boundedLambda : Lambda where
  parameter := "x"
  body := .binary .andAlso
    (.binary .greaterThan (.member (.parameter "x") "a") (.constant (.int (-18))))
    (.staticCall "f" [.parameter "x"])

theorem tokens_bounded : Lexer.tokens bounded =
    [⟨.identifier "x", ⟨0, 1⟩⟩, ⟨.arrow, ⟨2, 4⟩⟩, ⟨.identifier "x", ⟨5, 6⟩⟩, ⟨.dot, ⟨6, 7⟩⟩,
      ⟨.identifier "a", ⟨7, 8⟩⟩, ⟨.greater, ⟨9, 10⟩⟩, ⟨.minus, ⟨11, 12⟩⟩, ⟨.identifier "n", ⟨12, 13⟩⟩,
      ⟨.andAlso, ⟨14, 16⟩⟩, ⟨.identifier "f", ⟨17, 18⟩⟩, ⟨.leftParen, ⟨18, 19⟩⟩,
      ⟨.identifier "x", ⟨19, 20⟩⟩, ⟨.rightParen, ⟨20, 21⟩⟩] := by
  with_unfolding_all rfl

theorem parse_bounded : Lambda.parse bounded [("n", .int 18)] = .ok boundedLambda := by
  -- the run only looks the value up, so it is the same for every value
  have hparse (v : Value) : Lambda.parse bounded [("n", v)] = .ok { boundedLambda with
      body := .binary .andAlso
        (.binary .greaterThan (.member (.parameter "x") "a") (Parser.negated (.constant v)))
        (.staticCall "f" [.parameter "x"]) } := by
    rw [Lambda.parse, tokens_bounded]
    cbv
  exact hparse (.int 18)

/-- Values for the call and for the parameter change neither the lambda nor the error. -/
theorem Lambda.parse_bindings_bounded :
    Lambda.parse bounded [("f", .null), ("n", .int 18), ("x", .int 1)] = .ok boundedLambda ∧
      Lambda.parse bounded [("x", .int 1)] = .error (.unbound "n" ⟨12, 13⟩) := by
  constructor
  · refine (Lambda.parse_bindings bounded _ _).1 _ parse_bounded fun name v _ hv => ?_
    rw [Fields.get?] at hv
    split at hv
    · rename_i hn
      rw [hn, ← hv]
      rfl
    · cases hv
  · have herror : Lambda.parse bounded [] = .error (.unbound "n" ⟨12, 13⟩) := by
      rw [Lambda.parse, tokens_bounded]
      cbv
    rw [← (Lambda.parse_bindings bounded [] [("x", .int 1)]).2, herror]
    intro name hm
    have hn : name ≠ "x" := fun h => hm.2 (h ▸ Parser.parameter?_of_lambda parse_bounded)
    exact (if_neg hn).symm

end RecordQuery
