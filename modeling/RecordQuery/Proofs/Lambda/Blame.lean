import RecordQuery.Proofs.Lambda.Completeness
import RecordQuery.Proofs.Lambda.Runs

/-!
# Where the parser puts the blame

An error without place is the end of tokens that others can make a lambda. An error with a place
stands at the first token that cannot be part of one, or at a name that means nothing. The readers of
expressions are the parser's own (`answers_expression`); here the parameter, the arrow and the end of
the tokens come to them.
-/

namespace RecordQuery.Grammar

open RecordQuery.Parser

variable {bindings : Fields Value} {scope : Scope} {s : List Token}

/-! ## Lambdas -/

/-- Tokens that others make a lambda. -/
def BeginsLambda (bindings : Fields Value) (p : List Token) : Prop :=
  ∃ more l, Parser.lambda bindings (p ++ more) = .ok l

/-- Lambdas, which leave no tokens. -/
def lambdas (bindings : Fields Value) : Reader where
  reads s x := (Parser.lambda bindings s).map (fun _ => []) = x
  whole p := ∃ l, Parser.lambda bindings p = .ok l

/-- What is read where no token may be left. -/
def ending : List Token → Except ParseError (List Token)
  | [] => .ok []
  | token :: _ => .error (.unexpected token.kind token.span)

/-- The end of the tokens. -/
def endings : Reader where
  reads s x := ending s = x
  whole p := p = []

theorem answers_ending : Answers scope endings s (ending s) := by
  cases s with
  | nil =>
    refine .took (p := []) rfl fun t ht => ?_
    rw [List.head?_eq_none_iff.mp ht]
    rfl
  | cons token rest =>
    exact .stopped (p := []) rfl (fun _ _ h => nomatch h) ⟨[], rfl⟩ fun _ => rfl

theorem lambda_arrow {parameter : String} {a b : Span} :
    (Parser.lambda bindings (⟨.identifier parameter, a⟩ :: ⟨.arrow, b⟩ :: s)).map (fun _ => []) =
      expression ⟨parameter, bindings⟩ s >>= fun body => ending body.rest := by
  show Except.map _ (expression ⟨parameter, bindings⟩ s >>= _) = _
  cases expression ⟨parameter, bindings⟩ s with
  | error e => rfl
  | ok body =>
    obtain ⟨v, rest, hlt⟩ := body
    cases rest <;> rfl

theorem lambda_whole {parameter : String} {a b : Span} {p : List Token}
    (h : Whole ⟨parameter, bindings⟩ (.level 6) p) :
    ∃ l, Parser.lambda bindings (⟨.identifier parameter, a⟩ :: ⟨.arrow, b⟩ :: p) = .ok l := by
  obtain ⟨d⟩ := h [] noParen_nil
  rw [List.append_nil] at d
  exact ⟨_, (LambdaDerivation.lambda d).parsed⟩

/-- The shortest lambdas give back their parameter. -/
theorem lambda_shortest (parameter : String) (a b c : Span) :
    ∃ l, Parser.lambda bindings
      [⟨.identifier parameter, a⟩, ⟨.arrow, b⟩, ⟨.identifier parameter, c⟩] = .ok l :=
  lambda_whole ((whole_parameter rfl).level 6)

theorem lambda_noName (h : ∀ n a u, s ≠ ⟨.identifier n, a⟩ :: u) :
    Parser.lambda bindings s = .error (missing (.identifier "") s) := by
  rw [Parser.lambda, name_of_not_name h]
  rfl

theorem lambda_noArrow {parameter : String} {a : Span} (h : ∀ b u, s ≠ ⟨.arrow, b⟩ :: u) :
    Parser.lambda bindings (⟨.identifier parameter, a⟩ :: s) = .error (missing .arrow s) := by
  have harrow : arrow s = .error (missing .arrow s) := by
    unfold arrow
    split
    · rename_i b u
      exact absurd rfl (h b u)
    · rfl
  show arrow s >>= _ = _
  rw [harrow]
  rfl

/-! ## How a run on a lambda ends -/

theorem answers_noParameter (h : ∀ n a u, s ≠ ⟨.identifier n, a⟩ :: u) :
    Answers scope (lambdas bindings) s (.error (missing (.identifier "") s)) := by
  refine answers_missing _ ⟨_, lambda_shortest "x" ⟨0, 0⟩ ⟨0, 0⟩ ⟨0, 0⟩⟩ fun s' hs => ?_
  show Except.map _ (Parser.lambda bindings s') = _
  rw [lambda_noName fun n => ne_cons_of_head (h n) hs]
  rfl

theorem answers_noArrow {parameter : String} {a : Span} (h : ∀ b u, s ≠ ⟨.arrow, b⟩ :: u) :
    Answers scope (lambdas bindings) (⟨.identifier parameter, a⟩ :: s)
      (.error (missing .arrow s)) := by
  refine .behind (answers_missing _ ⟨_, lambda_shortest parameter a ⟨0, 0⟩ ⟨0, 0⟩⟩ fun s' hs => ?_)
  show Except.map _ (Parser.lambda bindings (⟨.identifier parameter, a⟩ :: s')) = _
  rw [lambda_noArrow (ne_cons_of_head h hs)]
  rfl

theorem answers_body {parameter : String} {a b : Span} :
    Answers ⟨parameter, bindings⟩ (lambdas bindings) (⟨.identifier parameter, a⟩ :: ⟨.arrow, b⟩ :: s)
      ((Parser.lambda bindings (⟨.identifier parameter, a⟩ :: ⟨.arrow, b⟩ :: s)).map
        fun _ => []) := by
  have hleads : Leads (levels ⟨parameter, bindings⟩ 6) endings
      (((lambdas bindings).behind ⟨.identifier parameter, a⟩).behind ⟨.arrow, b⟩) s := by
    refine .of_result (fun _ _ h => leaves_expression.trans h) ?_ ?_ ?_ ⟨[], rfl⟩
    · intro s' e _ h
      show Except.map _ (Parser.lambda bindings (_ :: _ :: s')) = _
      rw [lambda_arrow, h]
      rfl
    · intro s' body y _ h hy
      show Except.map _ (Parser.lambda bindings (_ :: _ :: s')) = _
      rw [lambda_arrow, h]
      exact hy
    · rintro p _ hp rfl
      rw [List.append_nil]
      exact lambda_whole hp
  rw [lambda_arrow]
  exact .behind (.behind (.bind hleads (answers_expression _ s) fun _ _ => answers_ending))

/-! ## Errors -/

/-- The token that an error blames, with the tokens before and behind it. -/
structure Blamed (bindings : Fields Value) (e : ParseError) (before : List Token) (token : Token)
    (after : List Token) : Prop where
  /-- The tokens before it are not to blame. -/
  begins : BeginsLambda bindings before
  /-- The token is to blame, unless it is a name, which could be called. -/
  stops : (∀ name a, e ≠ .unbound name a) → ¬BeginsLambda bindings (before ++ [token])
  /-- The name is not the parameter, has no value and is not called. -/
  unbound : ∀ name a, e = .unbound name a → token.kind = .identifier name ∧
    (∃ parameter b rest, before = ⟨.identifier parameter, b⟩ :: rest ∧ name ≠ parameter) ∧
    bindings.get? name = none ∧ ∀ b rest, after ≠ ⟨.leftParen, b⟩ :: rest

/-- An error of a run is blamed on the end of the tokens or on the token at its place. -/
theorem blamed_of_answers (scope : Scope) {e : ParseError}
    (h : Answers scope (lambdas scope.bindings) s (.error e))
    (hs : ∀ name a, e = .unbound name a → ∃ b t, s = ⟨.identifier scope.parameter, b⟩ :: t) :
    (e.span? = none → BeginsLambda scope.bindings s) ∧
      ∀ span, e.span? = some span → ∃ before token after, s = before ++ token :: after ∧
        token.span = span ∧ Blamed scope.bindings e before token after := by
  cases h with
  | ended he hb => exact ⟨fun _ => hb, fun span h => absurd (he.symm.trans h) nofun⟩
  | @stopped p u token _ he hn hb hr =>
    refine ⟨fun h => absurd (he.symm.trans h) nofun, fun span h => ?_⟩
    refine ⟨p, token, u, rfl, Option.some.inj (he.symm.trans h), hb, fun _ hmore => ?_,
      fun name a h => absurd h (hn name a)⟩
    obtain ⟨more, l, hl⟩ := hmore
    have herror := hr more
    rw [List.append_assoc] at hl
    change Except.map _ (Parser.lambda scope.bindings (p ++ token :: more)) = .error e at herror
    rw [List.singleton_append] at hl
    rw [hl] at herror
    cases herror
  | @unbound p u name a hp hv hu hb =>
    refine ⟨nofun, fun span h => ?_⟩
    refine ⟨p, _, u, rfl, Option.some.inj h, hb, fun hn => absurd rfl (hn name a), ?_⟩
    intro _ _ he
    cases he
    refine ⟨rfl, ?_, hv, hu⟩
    obtain ⟨b, t, hst⟩ := hs name a rfl
    -- the name is not the parameter, so it is not the first token
    cases p with
    | nil =>
      cases hst
      exact absurd rfl hp
    | cons first p =>
      obtain ⟨rfl, -⟩ := List.cons.inj hst
      exact ⟨scope.parameter, b, p, rfl, hp⟩

/-- An error without place is the end of tokens that others make a lambda. An error with a place is at
a token, of which the tokens before it are not to blame. -/
theorem lambda_error {e : ParseError} (h : Parser.lambda bindings s = .error e) :
    (e.span? = none → BeginsLambda bindings s) ∧
      ∀ span, e.span? = some span → ∃ before token after, s = before ++ token :: after ∧
        token.span = span ∧ Blamed bindings e before token after := by
  by_cases hname : ∃ parameter a t, s = ⟨.identifier parameter, a⟩ :: t
  · obtain ⟨parameter, a, t, rfl⟩ := hname
    refine blamed_of_answers ⟨parameter, bindings⟩ ?_ fun _ _ _ => ⟨a, t, rfl⟩
    by_cases harrow : ∃ b u, t = ⟨.arrow, b⟩ :: u
    · obtain ⟨b, u, rfl⟩ := harrow
      have hbody : Answers ⟨parameter, bindings⟩ (lambdas bindings) _ _ :=
        answers_body (s := u) (a := a) (b := b)
      rw [h] at hbody
      exact hbody
    · have hno : ∀ b u, t ≠ ⟨.arrow, b⟩ :: u := fun b u hu => harrow ⟨b, u, hu⟩
      rw [lambda_noArrow hno] at h
      cases h
      exact answers_noArrow hno
  · have hno : ∀ n a u, s ≠ ⟨.identifier n, a⟩ :: u := fun n a u hu => hname ⟨n, a, u, hu⟩
    rw [lambda_noName hno] at h
    cases h
    refine blamed_of_answers ⟨"", bindings⟩ (answers_noParameter hno) fun name a he => ?_
    cases s <;> cases he

/-- The parenthesis behind the comma is to blame, although it would close the arguments before it. -/
theorem lambda_error_trailingComma :
    Parser.lambda [] (Lexer.tokens "x => f(x, )") = .error (.unexpected .rightParen ⟨10, 11⟩) ∧
      ∃ before token after, Lexer.tokens "x => f(x, )" = before ++ token :: after ∧
        token.span = ⟨10, 11⟩ ∧ Blamed [] (.unexpected .rightParen ⟨10, 11⟩) before token after := by
  have htokens : Lexer.tokens "x => f(x, )" =
      [⟨.identifier "x", ⟨0, 1⟩⟩, ⟨.arrow, ⟨2, 4⟩⟩, ⟨.identifier "f", ⟨5, 6⟩⟩, ⟨.leftParen, ⟨6, 7⟩⟩,
        ⟨.identifier "x", ⟨7, 8⟩⟩, ⟨.comma, ⟨8, 9⟩⟩, ⟨.rightParen, ⟨10, 11⟩⟩] := by
    with_unfolding_all rfl
  have h : Parser.lambda [] (Lexer.tokens "x => f(x, )") =
      .error (.unexpected .rightParen ⟨10, 11⟩) := by
    rw [htokens]
    cbv
  exact ⟨h, (lambda_error h).2 _ rfl⟩

end RecordQuery.Grammar
