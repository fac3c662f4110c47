import RecordQuery.Proofs.Lambda.Branches
import RecordQuery.Proofs.Lambda.Prefixes

/-!
# Readers that look at one token

A reader looks at no token before it has taken all tokens in front of it, and it takes only tokens that
something whole starts with. `Answers` says this of one run: what it took is whole, or what it took
before it failed begins something whole, and it ends in the same way on all tokens that start with
those it has looked at. `Answers.bind` puts two readers in a row, `Answers.become` puts one in the place
of another, and `Answers.behind` puts a token before it.
-/

namespace RecordQuery.Grammar

open RecordQuery.Parser

/-! ## Readers -/

/-- What a reader makes of tokens, as the tokens it leaves or its error, and which tokens it takes. -/
structure Reader where
  reads : List Token → Except ParseError (List Token) → Prop
  whole : List Token → Prop

/-- A reader of the tokens behind a given one. -/
def Reader.behind (R : Reader) (token : Token) : Reader where
  reads s x := R.reads (token :: s) x
  whole p := R.whole (token :: p)

/-- How a run of a reader on tokens ends, and on which other tokens it ends the same way. -/
inductive Answers (scope : Scope) (R : Reader) :
    List Token → Except ParseError (List Token) → Prop
  /-- The run takes some tokens, whatever is behind the first of the rest. -/
  | took {p t : List Token} (hw : R.whole p)
      (hr : ∀ t', t'.head? = t.head? → R.reads (p ++ t') (.ok t')) : Answers scope R (p ++ t) (.ok t)
  /-- The run reaches the end of the tokens. -/
  | ended {s : List Token} {e : ParseError} (he : e.span? = none) (hb : Begins R.whole s) :
      Answers scope R s (.error e)
  /-- The run fails at a token, whatever is behind it. -/
  | stopped {p u : List Token} {token : Token} {e : ParseError} (he : e.span? = some token.span)
      (hn : ∀ name a, e ≠ .unbound name a) (hb : Begins R.whole p)
      (hr : ∀ u', R.reads (p ++ token :: u') (.error e)) :
      Answers scope R (p ++ token :: u) (.error e)
  /-- The run fails at a name that means nothing and is not called. -/
  | unbound {p u : List Token} {name : String} {a : Span} (hp : name ≠ scope.parameter)
      (hv : scope.bindings.get? name = none) (hu : NoParen u) (hb : Begins R.whole p) :
      Answers scope R (p ++ ⟨.identifier name, a⟩ :: u) (.error (.unbound name a))

/-- On tokens that start like `s`, a reader starts with another one and leaves the rest to a third. -/
structure Leads (first second R : Reader) (s : List Token) : Prop where
  fails : ∀ s' e, s'.head? = s.head? → first.reads s' (.error e) → R.reads s' (.error e)
  goesOn : ∀ s' t x, s'.head? = s.head? → first.reads s' (.ok t) → second.reads t x → R.reads s' x
  whole : ∀ p p', first.whole p → second.whole p' → R.whole (p ++ p')
  /-- What the first reader takes can be made whole. -/
  ends : ∃ p', second.whole p'

/-- On tokens that start like `s`, a reader does what another one does. -/
structure Becomes (first R : Reader) (s : List Token) : Prop where
  reads : ∀ s' x, s'.head? = s.head? → first.reads s' x → R.reads s' x
  whole : ∀ p, first.whole p → R.whole p

section Readers

variable {scope : Scope} {first second R : Reader} {s t : List Token}

theorem head?_append_congr {p t t' : List Token} (h : t'.head? = t.head?) :
    (p ++ t').head? = (p ++ t).head? := by
  cases p <;> simp [h]

theorem head?_append_cons (p : List Token) (token : Token) (u u' : List Token) :
    (p ++ token :: u').head? = (p ++ token :: u).head? :=
  head?_append_congr rfl

theorem Leads.begins {p : List Token} (h : Leads first second R s) (hp : Begins first.whole p) :
    Begins R.whole p := by
  obtain ⟨q, hq⟩ := hp
  obtain ⟨q', hq'⟩ := h.ends
  exact ⟨q ++ q', by simpa [List.append_assoc] using h.whole _ _ hq hq'⟩

theorem Leads.begins_append {p p' : List Token} (h : Leads first second R s) (hp : first.whole p)
    (hp' : Begins second.whole p') : Begins R.whole (p ++ p') := by
  obtain ⟨q, hq⟩ := hp'
  exact ⟨q, by simpa [List.append_assoc] using h.whole _ _ hp hq⟩

/-- A reader fails as the one that it starts with. -/
theorem Answers.fail {e : ParseError} (h : Answers scope first s (.error e))
    (hl : Leads first second R s) : Answers scope R s (.error e) := by
  cases h with
  | ended he hb => exact .ended he (hl.begins hb)
  | stopped he hn hb hr =>
    exact .stopped he hn (hl.begins hb) fun u' => hl.fails _ _ (head?_append_cons _ _ _ u') (hr u')
  | unbound hp hv hu hb => exact .unbound hp hv hu (hl.begins hb)

/-- A reader ends as the one that goes on where the first has stopped. -/
theorem Answers.andThen {x : Except ParseError (List Token)} (h : Answers scope first s (.ok t))
    (h' : Answers scope second t x) (hl : Leads first second R s) : Answers scope R s x := by
  cases h with
  | @took p _ hw hr =>
    -- on tokens that start alike the first reader leaves tokens that start alike
    have hgo (t' : List Token) (x' : Except ParseError (List Token)) (ht : t'.head? = t.head?)
        (hx : second.reads t' x') : R.reads (p ++ t') x' :=
      hl.goesOn _ t' x' (head?_append_congr ht) (hr t' ht) hx
    cases h' with
    | @took p' t'' hw' hr' =>
      rw [← List.append_assoc]
      refine .took (hl.whole _ _ hw hw') fun t₁ ht₁ => ?_
      rw [List.append_assoc]
      exact hgo _ _ (head?_append_congr ht₁) (hr' t₁ ht₁)
    | ended he hb => exact .ended he (hl.begins_append hw hb)
    | stopped he hn hb hr' =>
      rw [← List.append_assoc]
      refine .stopped he hn (hl.begins_append hw hb) fun u' => ?_
      rw [List.append_assoc]
      exact hgo _ _ (head?_append_cons _ _ _ u') (hr' u')
    | unbound hp hv hu hb =>
      rw [← List.append_assoc]
      exact .unbound hp hv hu (hl.begins_append hw hb)

/-- Two readers in a row. -/
theorem Answers.bind {α : Type} {x : Result α s} {f : Reading α s → Except ParseError (List Token)}
    (hl : Leads first second R s) (hx : Answers scope first s (x.map Reading.rest))
    (hf : ∀ r, x = .ok r → Answers scope second r.rest (f r)) : Answers scope R s (x >>= f) := by
  cases x with
  | error e => exact hx.fail hl
  | ok r => exact hx.andThen (hf r rfl) hl

/-- A reader ends as the one that it becomes. -/
theorem Answers.become {x : Except ParseError (List Token)} (h : Answers scope first s x)
    (hb : Becomes first R s) : Answers scope R s x := by
  have hbegins {p : List Token} : Begins first.whole p → Begins R.whole p :=
    fun ⟨q, hq⟩ => ⟨q, hb.whole _ hq⟩
  cases h with
  | took hw hr =>
    exact .took (hb.whole _ hw) fun t' ht => hb.reads _ _ (head?_append_congr ht) (hr t' ht)
  | ended he h => exact .ended he (hbegins h)
  | stopped he hn h hr =>
    exact .stopped he hn (hbegins h) fun u' => hb.reads _ _ (head?_append_cons _ _ _ u') (hr u')
  | unbound hp hv hu h => exact .unbound hp hv hu (hbegins h)

/-- A reader answers for tokens as it answers for those behind the first. -/
theorem Answers.behind {token : Token} {x : Except ParseError (List Token)}
    (h : Answers scope (R.behind token) s x) : Answers scope R (token :: s) x := by
  have hbegins {p : List Token} : Begins (R.behind token).whole p → Begins R.whole (token :: p) :=
    fun ⟨q, hq⟩ => ⟨q, hq⟩
  cases h with
  | took hw hr => exact .took (p := token :: _) hw hr
  | ended he hb => exact .ended he (hbegins hb)
  | stopped he hn hb hr => exact .stopped (p := token :: _) he hn (hbegins hb) hr
  | unbound hp hv hu hb => exact .unbound (p := token :: _) hp hv hu (hbegins hb)

end Readers

end RecordQuery.Grammar
