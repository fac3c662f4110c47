import RecordQuery.Proofs.Lambda.Grammar

/-!
# What stands for something whatever is behind it

Tokens are `Whole` if they derive a category in front of everything but an opening parenthesis, which
would turn a name at their end into a call. One lemma for each kind of derivation puts whole tokens
together. Tokens begin something if others behind them make it whole (`Begins`).
-/

namespace RecordQuery.Grammar

open RecordQuery.Parser (Scope Closing)

variable {scope : Scope} {rank : Nat} {p p' s t : List Token}

/-- Tokens that do not make a call of a name before them. -/
def NoParen (t : List Token) : Prop :=
  ∀ a u, t ≠ ⟨.leftParen, a⟩ :: u

/-- Tokens that derive a category in front of everything but an opening parenthesis. -/
def Whole (scope : Scope) (category : Category) (p : List Token) : Prop :=
  ∀ t, NoParen t → Nonempty (Derivation scope category (p ++ t) t)

/-- Arguments with the closing bracket behind them. -/
def WholeArguments (scope : Scope) (closing : Closing) (p : List Token) : Prop :=
  ∀ t, ∃ a, Nonempty (Derivation scope .args (p ++ t) (⟨closing.kind, a⟩ :: t))

/-- Arguments behind the first, each with the comma before it, and the closing bracket. -/
def WholeMoreArguments (scope : Scope) (closing : Closing) (p : List Token) : Prop :=
  ∀ t, ∃ a, Nonempty (Derivation scope .moreArgs (p ++ t) (⟨closing.kind, a⟩ :: t))

/-- One or more arguments with the closing bracket behind them. -/
def WholeItems (scope : Scope) (closing : Closing) (p : List Token) : Prop :=
  ∀ t, ∃ a u, Nonempty (Derivation scope (.level 6) (p ++ t) u) ∧
    Nonempty (Derivation scope .moreArgs u (⟨closing.kind, a⟩ :: t))

/-- Tokens that others make whole. -/
def Begins (whole : List Token → Prop) (p : List Token) : Prop :=
  ∃ q, whole (p ++ q)

/-! ## What stands behind an operand -/

theorem noParen_nil : NoParen [] := nofun

theorem noParen_closing (closing : Closing) (a : Span) : NoParen (⟨closing.kind, a⟩ :: t) := by
  intro b u h
  cases closing <;> cases h

/-- Tokens that start alike start all with a kind of token or none does. -/
theorem ne_cons_of_head {kind : TokenKind} {t' : List Token} (h : ∀ a u, t ≠ ⟨kind, a⟩ :: u)
    (ht : t'.head? = t.head?) : ∀ a u, t' ≠ ⟨kind, a⟩ :: u := by
  rintro a u rfl
  obtain ⟨u, hu⟩ := List.head?_eq_some_iff.mp ht.symm
  exact h a u hu

theorem Derivation.noParen_more (d : Derivation scope (.more rank) s t) (h : NoParen t) :
    NoParen s := by
  cases d with
  | stop => exact h
  | @next _ _ op _ _ _ hk =>
    intro a u hs
    cases hs
    cases op <;> cases hk

theorem Derivation.noParen_suffixes (d : Derivation scope .suffixes s t) (h : NoParen t) :
    NoParen s := by
  cases d with
  | bare => exact h
  | member => nofun
  | call => nofun

theorem Derivation.noParen_moreArgs (d : Derivation scope .moreArgs s t) (h : NoParen t) :
    NoParen s := by
  cases d with
  | lastArg => exact h
  | nextArg => nofun

/-! ## Operators -/

theorem whole_nil_more : Whole scope (.more rank) [] :=
  fun _ _ => ⟨.stop⟩

theorem whole_nil_suffixes : Whole scope .suffixes [] :=
  fun _ _ => ⟨.bare⟩

theorem whole_level (h : Whole scope (.level rank) p) (h' : Whole scope (.more rank) p') :
    Whole scope (.level (rank + 1)) (p ++ p') := by
  intro t ht
  obtain ⟨others⟩ := h' t ht
  obtain ⟨first⟩ := h (p' ++ t) (others.noParen_more ht)
  rw [List.append_assoc]
  exact ⟨.level first others⟩

theorem whole_next {token : Token} {op : BinaryOp} (hk : token.kind = op.token)
    (hr : op.rank = rank + 1) (h : Whole scope (.level rank) p) (h' : Whole scope (.more rank) p') :
    Whole scope (.more rank) (token :: (p ++ p')) := by
  intro t ht
  obtain ⟨others⟩ := h' t ht
  obtain ⟨right⟩ := h (p' ++ t) (others.noParen_more ht)
  rw [List.cons_append, List.append_assoc]
  exact ⟨.next hk hr right others⟩

theorem whole_bang {a : Span} (h : Whole scope (.level 0) p) :
    Whole scope (.level 0) (⟨.bang, a⟩ :: p) := by
  intro t ht
  obtain ⟨operand⟩ := h t ht
  exact ⟨.bang operand⟩

theorem whole_minus {a : Span} (h : Whole scope (.level 0) p) :
    Whole scope (.level 0) (⟨.minus, a⟩ :: p) := by
  intro t ht
  obtain ⟨operand⟩ := h t ht
  exact ⟨.minus operand⟩

theorem whole_suffixed (h : Whole scope .primary p) (h' : Whole scope .suffixes p') :
    Whole scope (.level 0) (p ++ p') := by
  intro t ht
  obtain ⟨suffixes⟩ := h' t ht
  obtain ⟨target⟩ := h (p' ++ t) (suffixes.noParen_suffixes ht)
  rw [List.append_assoc]
  exact ⟨.suffixed target suffixes⟩

/-! ## Arguments -/

theorem wholeArguments_nil (closing : Closing) (a : Span) :
    WholeArguments scope closing [⟨closing.kind, a⟩] :=
  fun _ => ⟨a, ⟨.noArgs⟩⟩

theorem wholeMoreArguments_nil (closing : Closing) (a : Span) :
    WholeMoreArguments scope closing [⟨closing.kind, a⟩] :=
  fun _ => ⟨a, ⟨.lastArg⟩⟩

theorem wholeItems_append {closing : Closing} (h : Whole scope (.level 6) p)
    (h' : WholeMoreArguments scope closing p') : WholeItems scope closing (p ++ p') := by
  intro t
  obtain ⟨a, ⟨others⟩⟩ := h' t
  obtain ⟨first⟩ := h (p' ++ t) (others.noParen_moreArgs (noParen_closing closing a))
  rw [List.append_assoc]
  exact ⟨a, p' ++ t, ⟨first⟩, ⟨others⟩⟩

theorem wholeMoreArguments_comma {closing : Closing} {a : Span} (h : WholeItems scope closing p) :
    WholeMoreArguments scope closing (⟨.comma, a⟩ :: p) := by
  intro t
  obtain ⟨b, _, ⟨arg⟩, ⟨others⟩⟩ := h t
  exact ⟨b, ⟨.nextArg arg others⟩⟩

theorem wholeArguments_items {closing : Closing} (h : WholeItems scope closing p) :
    WholeArguments scope closing p := by
  intro t
  obtain ⟨a, _, ⟨first⟩, ⟨others⟩⟩ := h t
  exact ⟨a, ⟨.args first others⟩⟩

/-! ## Members, calls and primaries -/

theorem whole_member {a b : Span} {name : String} (h : Whole scope .suffixes p) :
    Whole scope .suffixes (⟨.dot, a⟩ :: ⟨.identifier name, b⟩ :: p) := by
  intro t ht
  obtain ⟨others⟩ := h t ht
  exact ⟨.member others⟩

theorem whole_call {a b c : Span} {name : String} (h : WholeArguments scope .paren p)
    (h' : Whole scope .suffixes p') :
    Whole scope .suffixes (⟨.dot, a⟩ :: ⟨.identifier name, b⟩ :: ⟨.leftParen, c⟩ :: (p ++ p')) := by
  intro t ht
  obtain ⟨others⟩ := h' t ht
  obtain ⟨_, ⟨args⟩⟩ := h (p' ++ t)
  simp only [List.cons_append, List.append_assoc]
  exact ⟨.call args others⟩

theorem whole_literal {token : Token} {v : Value} (h : Literal token.kind v) :
    Whole scope .primary [token] :=
  fun _ _ => ⟨.literal h⟩

theorem whole_paren {a b : Span} (h : Whole scope (.level 6) p) :
    Whole scope .primary (⟨.leftParen, a⟩ :: (p ++ [⟨.rightParen, b⟩])) := by
  intro t _
  obtain ⟨inner⟩ := h (⟨.rightParen, b⟩ :: t) (noParen_closing .paren b)
  simp only [List.cons_append, List.append_assoc, List.nil_append]
  exact ⟨.paren inner⟩

theorem whole_list {a : Span} (h : WholeArguments scope .bracket p) :
    Whole scope .primary (⟨.leftBracket, a⟩ :: p) := by
  intro t _
  obtain ⟨_, ⟨items⟩⟩ := h t
  exact ⟨.list items⟩

theorem whole_static {a b : Span} {name : String} (hn : name ≠ scope.parameter)
    (h : WholeArguments scope .paren p) :
    Whole scope .primary (⟨.identifier name, a⟩ :: ⟨.leftParen, b⟩ :: p) := by
  intro t _
  obtain ⟨_, ⟨args⟩⟩ := h t
  exact ⟨.static hn args⟩

theorem whole_parameter {a : Span} {name : String} (h : name = scope.parameter) :
    Whole scope .primary [⟨.identifier name, a⟩] :=
  fun _ _ => ⟨.parameter h⟩

theorem whole_bound {a : Span} {name : String} {v : Value} (h : name ≠ scope.parameter)
    (hv : scope.bindings.get? name = some v) : Whole scope .primary [⟨.identifier name, a⟩] :=
  fun _ ht => ⟨.bound h hv ht⟩

/-- A whole primary is a whole operand of operators of every rank. -/
theorem Whole.level (h : Whole scope .primary p) (rank : Nat) : Whole scope (.level rank) p := by
  induction rank with
  | zero => simpa only [List.append_nil] using whole_suffixed h whole_nil_suffixes
  | succ rank ih => simpa only [List.append_nil] using whole_level ih whole_nil_more

end RecordQuery.Grammar
