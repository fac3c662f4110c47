import RecordQuery.Proofs.Lambda.Branches

/-!
# What the parser reads is derived

One lemma for each branch of the parser turns what the branch has read into a derivation.
`expression_sound` puts them together by induction along the calls of the parser.
-/

namespace RecordQuery

namespace Grammar

open RecordQuery.Parser

section Branches

variable {scope : Scope} {s : List Token}

/-- What a reader reads off tokens is derived from them. -/
def Sound (scope : Scope) (category : Category) (x : Result category.Tree s) : Prop :=
  ∀ r, x = .ok r → ∃ d : Derivation scope category s r.rest, d.tree = r.value

/-- What is read after an operand are operators and operands. -/
def SoundOperands (scope : Scope) (rank : Nat) (left : Reading Expr s) : Prop :=
  ∀ r, operands scope rank left = .ok r →
    ∃ d : Derivation scope (.more rank) left.rest r.rest, chain left.value d.tree = r.value

/-- What is read after a primary are members and calls. -/
def SoundMembers (scope : Scope) (target : Reading Expr s) : Prop :=
  ∀ r, members scope target = .ok r →
    ∃ d : Derivation scope .suffixes target.rest r.rest, access target.value d.tree = r.value

/-- What is read up to a closing bracket are arguments. -/
def SoundArguments (scope : Scope) (closing : Closing) (s : List Token) : Prop :=
  ∀ r, arguments scope closing s = .ok r →
    ∃ a, ∃ d : Derivation scope .args s (⟨closing.kind, a⟩ :: r.rest), d.tree = r.value

/-- What is read up to a closing bracket is one argument and others. -/
def SoundItems (scope : Scope) (closing : Closing) (s : List Token) : Prop :=
  ∀ r, items scope closing s = .ok r →
    ∃ a t, ∃ first : Derivation scope (.level 6) s t,
      ∃ others : Derivation scope .moreArgs t (⟨closing.kind, a⟩ :: r.rest),
        first.tree :: others.tree = r.value

/-! ## Operators -/

theorem sound_level {rank : Nat} (hb : Sound scope (.level rank) (binary scope rank s))
    (ho : ∀ left : Reading Expr s, SoundOperands scope rank left) :
    Sound scope (.level (rank + 1)) (binary scope (rank + 1) s) := by
  intro r h
  rw [binary_succ] at h
  obtain ⟨left, hl, h⟩ := bind_eq_ok.mp h
  obtain ⟨first, hfirst⟩ := hb left hl
  obtain ⟨others, hothers⟩ := ho left r h
  exact ⟨.level first others, by rw [← hothers, ← hfirst]; rfl⟩

theorem sound_stop {rank : Nat} {left : Reading Expr s}
    (h : ∀ token rest, left.rest = token :: rest → operator? (rank + 1) token.kind = none) :
    SoundOperands scope rank left := by
  intro r hr
  rw [operands_stop h] at hr
  cases hr
  exact ⟨.stop, rfl⟩

theorem sound_next {rank : Nat} {left : Reading Expr s} {token : Token} {rest : List Token}
    {op : BinaryOp} (h : left.rest = token :: rest)
    (ho : operator? (rank + 1) token.kind = some op)
    (hb : Sound scope (.level rank) (binary scope rank rest))
    (hm : ∀ right : Reading Expr rest,
      SoundOperands scope rank (s := s) ⟨.binary op left.value right.value, right.rest,
        Nat.lt_trans right.shorter (Reading.tail_shorter h)⟩) :
    SoundOperands scope rank left := by
  intro r hr
  rw [operands_next h ho] at hr
  obtain ⟨right, hright, hr⟩ := bind_eq_ok.mp hr
  obtain ⟨dr, hdr⟩ := hb right hright
  obtain ⟨others, hothers⟩ := hm right r hr
  obtain ⟨hk, hrank⟩ := operator?_eq_some.mp ho
  rw [h]
  exact ⟨.next hk hrank dr others, by rw [← hothers, ← hdr]; rfl⟩

theorem sound_bang {a : Span} (hu : Sound scope (.level 0) (unary scope s)) :
    Sound scope (.level 0) (unary scope (⟨.bang, a⟩ :: s)) := by
  intro r h
  rw [unary_bang] at h
  obtain ⟨operand, ho, h⟩ := bind_eq_ok.mp h
  obtain ⟨d, hd⟩ := hu operand ho
  cases h
  exact ⟨.bang d, congrArg Expr.not hd⟩

theorem sound_minus {a : Span} (hu : Sound scope (.level 0) (unary scope s)) :
    Sound scope (.level 0) (unary scope (⟨.minus, a⟩ :: s)) := by
  intro r h
  rw [unary_minus] at h
  obtain ⟨operand, ho, h⟩ := bind_eq_ok.mp h
  obtain ⟨d, hd⟩ := hu operand ho
  cases h
  refine ⟨.minus d, ?_⟩
  show d.tree.minus = negated operand.value
  rw [hd, negated_eq_minus]

theorem sound_suffixed (hb : ∀ a rest, s ≠ ⟨.bang, a⟩ :: rest)
    (hm : ∀ a rest, s ≠ ⟨.minus, a⟩ :: rest) (hp : Sound scope .primary (primary scope s))
    (hs : ∀ target : Reading Expr s, SoundMembers scope target) :
    Sound scope (.level 0) (unary scope s) := by
  intro r h
  rw [unary_other hb hm] at h
  obtain ⟨target, ht, h⟩ := bind_eq_ok.mp h
  obtain ⟨d, hd⟩ := hp target ht
  obtain ⟨suffixes, hsuffixes⟩ := hs target r h
  exact ⟨.suffixed d suffixes, by rw [← hsuffixes, ← hd]; rfl⟩

/-! ## Members and calls -/

theorem sound_bare {target : Reading Expr s} (h : ∀ a rest, target.rest ≠ ⟨.dot, a⟩ :: rest) :
    SoundMembers scope target := by
  intro r hr
  rw [members_stop h] at hr
  cases hr
  exact ⟨.bare, rfl⟩

theorem sound_dot {target : Reading Expr s} {a : Span} {rest : List Token}
    (h : target.rest = ⟨.dot, a⟩ :: rest)
    (ha : ∀ (member : Reading String rest) (b : Span) (afterParen : List Token),
      member.rest = ⟨.leftParen, b⟩ :: afterParen → SoundArguments scope .paren afterParen)
    (hc : ∀ (member : Reading String rest) (b : Span) (afterParen : List Token)
      (hm : member.rest = ⟨.leftParen, b⟩ :: afterParen) (args : Reading (List Expr) afterParen),
      SoundMembers scope (s := s) ⟨.call target.value member.value args.value, args.rest,
        Nat.lt_trans args.shorter
          (Nat.lt_trans (Reading.tail_shorter hm) (Reading.tail_shorter h))⟩)
    (hd : ∀ (member : Reading String rest) (afterName : List Token)
      (hm : member.rest = afterName),
      SoundMembers scope (s := s) ⟨.member target.value member.value, afterName,
        hm ▸ Nat.lt_trans member.shorter (Reading.tail_shorter h)⟩) :
    SoundMembers scope target := by
  intro r hr
  rw [members_dot h] at hr
  obtain ⟨member, hmember, hr⟩ := bind_eq_ok.mp hr
  obtain ⟨b, hname⟩ := name_eq_ok.mp hmember
  split at hr
  · rename_i c afterParen hm
    obtain ⟨args, hargs, hr⟩ := bind_eq_ok.mp hr
    obtain ⟨_, dargs, hdargs⟩ := ha member c afterParen hm args hargs
    obtain ⟨others, hothers⟩ := hc member c afterParen hm args r hr
    rw [h, hname, hm]
    exact ⟨.call dargs others, by rw [← hothers, ← hdargs]; rfl⟩
  · obtain ⟨others, hothers⟩ := hd member member.rest rfl r hr
    rw [h, hname]
    exact ⟨.member others, by rw [← hothers]; rfl⟩

/-! ## Primaries -/

theorem sound_literal {token : Token} {v : Value} (h : Literal token.kind v) :
    Sound scope .primary (primary scope (token :: s)) := by
  intro r hr
  rw [primary_literal h] at hr
  cases hr
  exact ⟨.literal h, rfl⟩

theorem sound_paren {a : Span} (he : Sound scope (.level 6) (expression scope s)) :
    Sound scope .primary (primary scope (⟨.leftParen, a⟩ :: s)) := by
  intro r hr
  rw [primary_paren] at hr
  obtain ⟨⟨v, rest, hlt⟩, hinner, hr⟩ := bind_eq_ok.mp hr
  obtain ⟨closed, hclosed, hr⟩ := bind_eq_ok.mp hr
  cases hr
  obtain ⟨d, hd⟩ := he _ hinner
  obtain ⟨b, hrest, hvalue⟩ := close_eq_ok.mp hclosed
  cases hrest
  exact ⟨.paren d, hd.trans hvalue.symm⟩

theorem sound_list {a : Span} (ha : SoundArguments scope .bracket s) :
    Sound scope .primary (primary scope (⟨.leftBracket, a⟩ :: s)) := by
  intro r hr
  rw [primary_list] at hr
  obtain ⟨items, hitems, hr⟩ := bind_eq_ok.mp hr
  cases hr
  obtain ⟨_, d, hd⟩ := ha items hitems
  exact ⟨.list d, congrArg Expr.list hd⟩

theorem sound_parameter {a : Span} {name : String} (h : name = scope.parameter) :
    Sound scope .primary (primary scope (⟨.identifier name, a⟩ :: s)) := by
  intro r hr
  rw [primary_parameter h] at hr
  cases hr
  exact ⟨.parameter h, rfl⟩

theorem sound_static {a b : Span} {name : String} (h : name ≠ scope.parameter)
    (ha : SoundArguments scope .paren s) :
    Sound scope .primary (primary scope (⟨.identifier name, a⟩ :: ⟨.leftParen, b⟩ :: s)) := by
  intro r hr
  rw [primary_static h] at hr
  obtain ⟨args, hargs, hr⟩ := bind_eq_ok.mp hr
  cases hr
  obtain ⟨_, d, hd⟩ := ha args hargs
  exact ⟨.static h d, congrArg (Expr.staticCall name) hd⟩

theorem sound_bound {a : Span} {name : String} {v : Value} (h : name ≠ scope.parameter)
    (hv : scope.bindings.get? name = some v) (hs : ∀ b t, s ≠ ⟨.leftParen, b⟩ :: t) :
    Sound scope .primary (primary scope (⟨.identifier name, a⟩ :: s)) := by
  intro r hr
  rw [primary_bound h hv hs] at hr
  cases hr
  exact ⟨.bound h hv hs, rfl⟩

/-! ## Arguments -/

theorem sound_noArgs {closing : Closing} {a : Span} :
    SoundArguments scope closing (⟨closing.kind, a⟩ :: s) := by
  intro r hr
  rw [arguments_close] at hr
  cases hr
  exact ⟨a, .noArgs, rfl⟩

theorem sound_args {closing : Closing} (h : ∀ a rest, s ≠ ⟨closing.kind, a⟩ :: rest)
    (hi : SoundItems scope closing s) : SoundArguments scope closing s := by
  intro r hr
  rw [arguments_items h] at hr
  obtain ⟨a, _, first, others, htree⟩ := hi r hr
  exact ⟨a, .args first others, htree⟩

theorem sound_items {closing : Closing} (he : Sound scope (.level 6) (expression scope s))
    (hi : ∀ (first : Reading Expr s) (a : Span) (rest : List Token),
      first.rest = ⟨.comma, a⟩ :: rest → SoundItems scope closing rest) :
    SoundItems scope closing s := by
  intro r hr
  rw [items_eq] at hr
  obtain ⟨⟨v, rest, hlt⟩, hfirst, hr⟩ := bind_eq_ok.mp hr
  obtain ⟨first, hd⟩ := he _ hfirst
  split at hr
  · rename_i a tail hcomma
    obtain ⟨others, hothers, hr⟩ := bind_eq_ok.mp hr
    cases hr
    obtain ⟨b, t, second, more, htree⟩ := hi _ a tail hcomma others hothers
    cases hcomma
    refine ⟨b, _, first, .nextArg second more, ?_⟩
    show first.tree :: second.tree :: more.tree = v :: others.value
    rw [hd, htree]
  · obtain ⟨b, hrest, hvalue⟩ := close_eq_ok.mp hr
    cases hrest
    exact ⟨b, _, first, .lastArg, (congrArg (fun e => [e]) hd).trans hvalue.symm⟩

end Branches

/-! ## The parser -/

/-- Every expression that the parser reads is derived from the tokens that it takes up. -/
theorem expression_sound (scope : Scope) (s : List Token) :
    Sound scope (.level 6) (expression scope s) := by
  refine (expression.mutual_induct scope (fun s => Sound scope (.level 6) (expression scope s))
    (fun rank s => Sound scope (.level rank) (binary scope rank s))
    (fun rank _ left => SoundOperands scope rank left)
    (fun s => Sound scope (.level 0) (unary scope s)) (fun _ target => SoundMembers scope target)
    (fun closing s => SoundArguments scope closing s) (fun closing s => SoundItems scope closing s)
    (fun s => Sound scope .primary (primary scope s)) ?_ ?_ ?_ ?_ ?_ ?_ ?_ ?_ ?_ ?_ ?_ ?_ ?_ ?_ ?_
    ?_ ?_ ?_ ?_ ?_ ?_ ?_ ?_ ?_ ?_).1 s
  -- expressions, operators and operands
  · intro s h
    rw [expression_eq]
    exact h
  · intro s h
    rw [binary_zero]
    exact h
  · exact fun s rank => sound_level
  · intro rank s left h
    refine sound_stop fun token rest hr => ?_
    rw [h] at hr
    cases hr
  · intro rank s left token rest h ho
    refine sound_stop fun token' rest' hr => ?_
    obtain ⟨rfl, -⟩ := List.cons.inj (h.symm.trans hr)
    exact ho
  · exact fun rank s left token rest h op => sound_next h
  · exact fun a s => sound_bang
  · exact fun a s => sound_minus
  · exact fun s => sound_suffixed
  -- members and calls
  · exact fun s target a rest => sound_dot
  · exact fun s target => sound_bare
  -- arguments
  · exact fun closing => sound_args fun _ _ => nofun
  · intro closing token tail h
    obtain ⟨a, rest, hs⟩ := isAt_iff.mp h
    rw [hs]
    exact sound_noArgs
  · exact fun closing token tail h => sound_args fun a rest hs => h (isAt_iff.mpr ⟨a, rest, hs⟩)
  · exact fun closing s => sound_items
  -- primaries, of which some branches only fail
  · intro r hr
    rw [primary] at hr
    cases hr
  · exact fun token tail v h => sound_literal (literal?_eq_some.mp h)
  · rintro ⟨_, a⟩ tail - rfl
    exact sound_paren
  · rintro ⟨_, a⟩ tail - rfl
    exact sound_list
  · rintro ⟨_, a⟩ tail - rfl
    exact sound_parameter rfl
  · rintro ⟨_, a⟩ - name rfl h b tail
    exact sound_static h
  · rintro ⟨_, a⟩ - name rfl h rest hs v hv
    exact sound_bound h hv hs
  · rintro ⟨_, a⟩ - name rfl h rest hs hv r hr
    rw [primary_unbound h hv hs] at hr
    cases hr
  · rintro ⟨_, a⟩ tail - rfl r hr
    rw [primary] at hr
    cases hr
  · rintro ⟨kind, a⟩ tail hl hparen hbracket hname hillegal r hr
    rw [primary_unexpected hl hparen hbracket hname hillegal] at hr
    cases hr

end Grammar

end RecordQuery
