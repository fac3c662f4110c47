import RecordQuery.Proofs.Except
import RecordQuery.Proofs.Lambda.Grammar
import RecordQuery.Proofs.Value.Int64

/-!
# The branches of the parser

The tables and the small readers of the parser, against those of the grammar, and one equation for each
branch of its larger readers. The equations say what a reader does next, so that proofs about the
parser need not unfold it.
-/

namespace RecordQuery

namespace Parser

/-! ## Tables and small readers -/

theorem operator?_eq_some {rank : Nat} {kind : TokenKind} {op : BinaryOp} :
    operator? rank kind = some op ↔ kind = op.token ∧ op.rank = rank := by
  constructor
  · intro h
    unfold operator? at h
    split at h <;> cases h <;> exact ⟨rfl, rfl⟩
  · rintro ⟨rfl, rfl⟩
    cases op <;> rfl

theorem literal?_eq_some {kind : TokenKind} {v : Value} :
    literal? kind = some v ↔ Literal kind v := by
  constructor
  · intro h
    unfold literal? at h
    split at h <;> cases h <;> constructor
  · rintro ⟨⟩ <;> rfl

theorem negated_eq_minus (e : Expr) : negated e = e.minus := by
  cases e with
  | constant v =>
    cases v with
    | int n =>
      simp only [negated, Expr.minus, int64?_neg]
      by_cases hn : n = Int64.minValue <;> simp only [hn, ↓reduceIte]
    | _ => rfl
  | _ => rfl

theorem isAt_iff {closing : Closing} {s : List Token} :
    closing.isAt s = true ↔ ∃ a rest, s = ⟨closing.kind, a⟩ :: rest := by
  constructor
  · intro h
    unfold Closing.isAt at h
    split at h
    · exact ⟨_, _, rfl⟩
    · exact ⟨_, _, rfl⟩
    · cases h
  · rintro ⟨a, rest, rfl⟩
    cases closing <;> rfl

theorem close_eq_ok {α : Type} {s : List Token} {closing : Closing} {r r' : Reading α s} :
    close closing r = .ok r' ↔
      ∃ a, r.rest = ⟨closing.kind, a⟩ :: r'.rest ∧ r'.value = r.value := by
  obtain ⟨v, rest, hs⟩ := r
  obtain ⟨v', rest', hs'⟩ := r'
  unfold close
  split
  · rename_i h
    simp only at h
    simp [h]
  · rename_i token tail h
    simp only at h
    subst h
    split
    · rename_i hat
      obtain ⟨a, _, hc⟩ := isAt_iff.mp hat
      obtain ⟨rfl, rfl⟩ := List.cons.inj hc
      simp [eq_comm, and_comm]
    · rename_i hat
      simp only [reduceCtorEq, false_iff]
      rintro ⟨a, hc, -⟩
      exact hat (isAt_iff.mpr ⟨a, rest', hc⟩)

theorem close_of_not_closing {α : Type} {s : List Token} {closing : Closing} {r : Reading α s}
    (h : ∀ a t, r.rest ≠ ⟨closing.kind, a⟩ :: t) :
    close closing r = .error (missing closing.kind r.rest) := by
  unfold close
  split
  · rename_i hr
    rw [hr]
  · rename_i token rest hr
    rw [if_neg, hr]
    intro hat
    obtain ⟨a, t, hc⟩ := isAt_iff.mp hat
    exact h a t (hr.trans hc)

theorem name_eq_ok {s : List Token} {r : Reading String s} :
    name s = .ok r ↔ ∃ a, s = ⟨.identifier r.value, a⟩ :: r.rest := by
  obtain ⟨v, rest, hs⟩ := r
  unfold name
  split
  · simp [eq_comm, and_comm]
  · rename_i hn
    simp only [reduceCtorEq, false_iff]
    rintro ⟨a, rfl⟩
    exact hn _ _ _ rfl

theorem name_of_not_name {s : List Token} (h : ∀ n a u, s ≠ ⟨.identifier n, a⟩ :: u) :
    name s = .error (missing (.identifier "") s) := by
  unfold name
  split
  · rename_i n a u
    exact absurd rfl (h n a u)
  · rfl

theorem arrow_eq_ok {s rest : List Token} : arrow s = .ok rest ↔ ∃ a, s = ⟨.arrow, a⟩ :: rest := by
  unfold arrow
  split
  · simp
  · rename_i hn
    simp only [reduceCtorEq, false_iff]
    rintro ⟨a, rfl⟩
    exact hn _ _ rfl

/-! ## Branches -/

section Branches

variable {scope : Scope} {rank : Nat} {s : List Token}

theorem expression_eq : expression scope s = binary scope loosest s := by
  rw [expression]

theorem binary_zero : binary scope 0 s = unary scope s := by
  rw [binary]

theorem binary_succ :
    binary scope (rank + 1) s = binary scope rank s >>= fun left => operands scope rank left := by
  rw [binary]

theorem operands_stop {left : Reading Expr s}
    (h : ∀ token rest, left.rest = token :: rest → operator? (rank + 1) token.kind = none) :
    operands scope rank left = .ok left := by
  rw [operands]
  split
  · rfl
  · rename_i token rest hr
    rw [h token rest hr]

theorem operands_next {left : Reading Expr s} {token : Token} {rest : List Token} {op : BinaryOp}
    (h : left.rest = token :: rest) (ho : operator? (rank + 1) token.kind = some op) :
    operands scope rank left = binary scope rank rest >>= fun right =>
      operands scope rank ⟨.binary op left.value right.value, right.rest,
        Nat.lt_trans right.shorter (Reading.tail_shorter h)⟩ := by
  rw [operands]
  split
  · rename_i hr
    rw [h] at hr
    cases hr
  · rename_i token' rest' hr
    obtain ⟨rfl, rfl⟩ := List.cons.inj (h.symm.trans hr)
    rw [ho]

theorem unary_bang {a : Span} :
    unary scope (⟨.bang, a⟩ :: s) = unary scope s >>= fun r =>
      .ok ((r.map .not).within (Nat.le_succ _)) := by
  rw [unary]

theorem unary_minus {a : Span} :
    unary scope (⟨.minus, a⟩ :: s) = unary scope s >>= fun r =>
      .ok ((r.map negated).within (Nat.le_succ _)) := by
  rw [unary]

theorem unary_other (hb : ∀ a rest, s ≠ ⟨.bang, a⟩ :: rest) (hm : ∀ a rest, s ≠ ⟨.minus, a⟩ :: rest) :
    unary scope s = primary scope s >>= fun target => members scope target := by
  rw [unary]
  · exact hb
  · exact hm

theorem members_stop {target : Reading Expr s} (h : ∀ a rest, target.rest ≠ ⟨.dot, a⟩ :: rest) :
    members scope target = .ok target := by
  rw [members]
  split
  · rename_i a rest hr
    exact absurd hr (h a rest)
  · rfl

theorem members_dot {target : Reading Expr s} {a : Span} {rest : List Token}
    (h : target.rest = ⟨.dot, a⟩ :: rest) :
    members scope target = name rest >>= fun member =>
      match hm : member.rest with
      | ⟨.leftParen, _⟩ :: afterParen => arguments scope .paren afterParen >>= fun args =>
        members scope ⟨.call target.value member.value args.value, args.rest,
          Nat.lt_trans args.shorter
            (Nat.lt_trans (Reading.tail_shorter hm) (Reading.tail_shorter h))⟩
      | afterName =>
        members scope ⟨.member target.value member.value, afterName,
          hm ▸ Nat.lt_trans member.shorter (Reading.tail_shorter h)⟩ := by
  rw [members]
  split
  · rename_i a' rest' hr
    obtain ⟨-, rfl⟩ := List.cons.inj (h.symm.trans hr)
    rfl
  · rename_i hn
    exact absurd h (hn a rest)

theorem members_call {target : Reading Expr s} {a b c : Span} {name : String} {rest : List Token}
    (h : target.rest = ⟨.dot, a⟩ :: ⟨.identifier name, b⟩ :: ⟨.leftParen, c⟩ :: rest)
    (hs : rest.length < s.length) :
    members scope target = arguments scope .paren rest >>= fun args =>
      members scope ⟨.call target.value name args.value, args.rest,
        Nat.lt_trans args.shorter hs⟩ := by
  rw [members_dot h]
  rfl

theorem members_member {target : Reading Expr s} {a b : Span} {name : String} {rest : List Token}
    (h : target.rest = ⟨.dot, a⟩ :: ⟨.identifier name, b⟩ :: rest) (hs : rest.length < s.length)
    (hp : ∀ c t, rest ≠ ⟨.leftParen, c⟩ :: t) :
    members scope target = members scope ⟨.member target.value name, rest, hs⟩ := by
  rw [members_dot h]
  simp only [Parser.name, bind, Except.bind]

theorem members_noName {target : Reading Expr s} {a : Span} {rest : List Token}
    (h : target.rest = ⟨.dot, a⟩ :: rest) (hn : ∀ n b u, rest ≠ ⟨.identifier n, b⟩ :: u) :
    members scope target = .error (missing (.identifier "") rest) := by
  rw [members_dot h, name_of_not_name hn]
  rfl

/-- Behind a dot is a name with a parenthesis, a name without one, or no name. -/
theorem behind_dot (rest : List Token) :
    (∃ n b c t, rest = ⟨.identifier n, b⟩ :: ⟨.leftParen, c⟩ :: t) ∨
      (∃ n b u, rest = ⟨.identifier n, b⟩ :: u ∧ ∀ c t, u ≠ ⟨.leftParen, c⟩ :: t) ∨
      ∀ n b u, rest ≠ ⟨.identifier n, b⟩ :: u := by
  by_cases hn : ∃ n b u, rest = ⟨.identifier n, b⟩ :: u
  · obtain ⟨n, b, u, rfl⟩ := hn
    by_cases hp : ∃ c t, u = ⟨.leftParen, c⟩ :: t
    · obtain ⟨c, t, rfl⟩ := hp
      exact .inl ⟨n, b, c, t, rfl⟩
    · exact .inr (.inl ⟨n, b, u, rfl, fun c t hu => hp ⟨c, t, hu⟩⟩)
  · exact .inr (.inr fun n b u hu => hn ⟨n, b, u, hu⟩)

theorem primary_literal {token : Token} {v : Value} (h : Literal token.kind v) :
    primary scope (token :: s) = .ok ⟨.constant v, s, Nat.lt_succ_self _⟩ := by
  rw [primary, literal?_eq_some.mpr h]

theorem primary_paren {a : Span} :
    primary scope (⟨.leftParen, a⟩ :: s) = expression scope s >>= fun r =>
      close .paren r >>= fun r => .ok (r.within (Nat.le_succ _)) := by
  rw [primary]
  rfl

theorem primary_list {a : Span} :
    primary scope (⟨.leftBracket, a⟩ :: s) = arguments scope .bracket s >>= fun r =>
      .ok ((r.map .list).within (Nat.le_succ _)) := by
  rw [primary]
  rfl

theorem primary_parameter {a : Span} {name : String} (h : name = scope.parameter) :
    primary scope (⟨.identifier name, a⟩ :: s) = .ok ⟨.parameter name, s, Nat.lt_succ_self _⟩ := by
  rw [primary]
  exact if_pos h

theorem primary_static {a b : Span} {name : String} (h : name ≠ scope.parameter) :
    primary scope (⟨.identifier name, a⟩ :: ⟨.leftParen, b⟩ :: s) =
      arguments scope .paren s >>= fun r =>
        .ok ((r.map (.staticCall name)).within (Nat.le_add_right _ 2)) := by
  rw [primary]
  exact if_neg h

theorem primary_bound {a : Span} {name : String} {v : Value} (h : name ≠ scope.parameter)
    (hv : scope.bindings.get? name = some v) (hs : ∀ b t, s ≠ ⟨.leftParen, b⟩ :: t) :
    primary scope (⟨.identifier name, a⟩ :: s) = .ok ⟨.constant v, s, Nat.lt_succ_self _⟩ := by
  rw [primary]
  simp only [literal?, if_neg h, hv]

theorem primary_unbound {a : Span} {name : String} (h : name ≠ scope.parameter)
    (hv : scope.bindings.get? name = none) (hs : ∀ b t, s ≠ ⟨.leftParen, b⟩ :: t) :
    primary scope (⟨.identifier name, a⟩ :: s) = .error (.unbound name a) := by
  rw [primary]
  simp only [literal?, if_neg h, hv]

theorem primary_unexpected {token : Token} (hl : literal? token.kind = none)
    (hp : token.kind ≠ .leftParen) (hb : token.kind ≠ .leftBracket)
    (hn : ∀ name, token.kind ≠ .identifier name) (hi : token.kind ≠ .illegal) :
    primary scope (token :: s) = .error (.unexpected token.kind token.span) := by
  rw [primary]
  rw [hl]
  split <;> first | rfl | simp_all

theorem arguments_close {closing : Closing} {a : Span} :
    arguments scope closing (⟨closing.kind, a⟩ :: s) = .ok ⟨[], s, Nat.lt_succ_self _⟩ := by
  rw [arguments]
  exact if_pos (isAt_iff.mpr ⟨a, s, rfl⟩)

theorem arguments_items {closing : Closing} (h : ∀ a rest, s ≠ ⟨closing.kind, a⟩ :: rest) :
    arguments scope closing s = items scope closing s := by
  cases s with
  | nil => rw [arguments]
  | cons token rest =>
    rw [arguments]
    refine if_neg fun hat => ?_
    obtain ⟨a, t, ht⟩ := isAt_iff.mp hat
    exact h a t ht

theorem items_eq {closing : Closing} :
    items scope closing s = expression scope s >>= fun first =>
      match h : first.rest with
      | ⟨.comma, _⟩ :: rest => items scope closing rest >>= fun others =>
        .ok ((others.map (first.value :: ·)).within (Nat.le_of_lt (Reading.tail_shorter h)))
      | _ => close closing (first.map ([·])) :=
  items.eq_def scope closing s

theorem items_bind {closing : Closing} :
    items scope closing s = expression scope s >>= fun _ => items scope closing s := by
  cases h : expression scope s with
  | error e =>
    rw [items_eq, h]
    rfl
  | ok first => rfl

theorem items_next {closing : Closing} {first : Reading Expr s} {a : Span} {rest : List Token}
    (hf : expression scope s = .ok first) (h : first.rest = ⟨.comma, a⟩ :: rest) :
    items scope closing s = items scope closing rest >>= fun others =>
      .ok ((others.map (first.value :: ·)).within (Nat.le_of_lt (Reading.tail_shorter h))) := by
  obtain ⟨v, _, hlt⟩ := first
  cases h
  rw [items_eq, hf]
  rfl

theorem items_last {closing : Closing} {first : Reading Expr s}
    (hf : expression scope s = .ok first) (h : ∀ a rest, first.rest ≠ ⟨.comma, a⟩ :: rest) :
    items scope closing s = close closing (first.map ([·])) := by
  obtain ⟨v, rest, hlt⟩ := first
  rw [items_eq, hf]
  simp only [bind, Except.bind]

end Branches

end Parser

end RecordQuery
