import RecordQuery.Proofs.Lambda.Grammar

/-!
# What tokens stand for

Where tokens stand in a text and what is behind them does not matter for what they stand for. `Derives`
says what tokens of given kinds stand for, with one lemma for each way to put an expression together.
-/

namespace RecordQuery.Grammar

open RecordQuery.Parser (Scope)

variable {scope : Scope} {ts : List Token} {kind : TokenKind} {kinds kinds' : List TokenKind}

/-- Tokens of these kinds stand for `x`, whatever is behind them. -/
def Derives (scope : Scope) (category : Category) (kinds : List TokenKind) (x : category.Tree) : Prop :=
  ∀ ts rest, ts.map (·.kind) = kinds →
    ∃ d : Derivation scope category (ts ++ rest) rest, d.tree = x

/-- Tokens of these kinds stand for `e` as a primary with members and calls behind it. -/
def DerivesAccess (scope : Scope) (kinds : List TokenKind) (e : Expr) : Prop :=
  ∀ ts rest, ts.map (·.kind) = kinds →
    ∃ (t : List Token) (target : Derivation scope .primary (ts ++ rest) t)
      (suffixes : Derivation scope .suffixes t rest), access target.tree suffixes.tree = e

theorem exists_eq_cons_of_map_kind (h : ts.map (·.kind) = kind :: kinds) :
    ∃ a ts', ts = ⟨kind, a⟩ :: ts' ∧ ts'.map (·.kind) = kinds := by
  obtain ⟨⟨k, a⟩, ts', rfl, rfl, hts⟩ := List.map_eq_cons_iff.mp h
  exact ⟨a, ts', rfl, hts⟩

theorem exists_eq_singleton_of_map_kind (h : ts.map (·.kind) = [kind]) : ∃ a, ts = [⟨kind, a⟩] := by
  obtain ⟨a, ts', rfl, hts⟩ := exists_eq_cons_of_map_kind h
  obtain rfl := List.map_eq_nil_iff.mp hts
  exact ⟨a, rfl⟩

/-! ## Expressions by rank -/

theorem Derives.level_mono {m n : Nat} {e : Expr} (h : Derives scope (.level m) kinds e)
    (hmn : m ≤ n) : Derives scope (.level n) kinds e := by
  induction hmn with
  | refl => exact h
  | step _ ih =>
    intro ts rest hts
    obtain ⟨d, hd⟩ := ih ts rest hts
    exact ⟨.level d .stop, hd⟩

theorem DerivesAccess.level {e : Expr} (h : DerivesAccess scope kinds e) :
    Derives scope (.level 0) kinds e := by
  intro ts rest hts
  obtain ⟨t, target, suffixes, he⟩ := h ts rest hts
  exact ⟨.suffixed target suffixes, he⟩

theorem derives_not {e : Expr} (h : Derives scope (.level 0) kinds e) :
    Derives scope (.level 0) (.bang :: kinds) (.not e) := by
  intro ts rest hts
  obtain ⟨a, ts', rfl, hts'⟩ := exists_eq_cons_of_map_kind hts
  obtain ⟨d, rfl⟩ := h ts' rest hts'
  exact ⟨.bang d, rfl⟩

theorem derives_minus {e : Expr} (h : Derives scope (.level 0) kinds e) :
    Derives scope (.level 0) (.minus :: kinds) e.minus := by
  intro ts rest hts
  obtain ⟨a, ts', rfl, hts'⟩ := exists_eq_cons_of_map_kind hts
  obtain ⟨d, rfl⟩ := h ts' rest hts'
  exact ⟨.minus d, rfl⟩

/-- An operator with the operands before and behind it. -/
theorem derives_operator {rank : Nat} {op : BinaryOp} {left right : Expr} (hop : op.rank = rank + 1)
    (hl : Derives scope (.level rank) kinds left) (hr : Derives scope (.level rank) kinds' right) :
    Derives scope (.level (rank + 1)) (kinds ++ op.token :: kinds') (.binary op left right) := by
  intro ts rest hts
  obtain ⟨ls, ts', rfl, hls, hts'⟩ := List.map_eq_append_iff.mp hts
  obtain ⟨a, rs, rfl, hrs⟩ := exists_eq_cons_of_map_kind hts'
  rw [List.append_assoc]
  obtain ⟨l, rfl⟩ := hl ls (⟨op.token, a⟩ :: rs ++ rest) hls
  obtain ⟨r, rfl⟩ := hr rs rest hrs
  exact ⟨.level l (.next rfl hop r .stop), rfl⟩

/-! ## Primaries -/

theorem derives_literal {v : Value} (h : Literal kind v) :
    Derives scope .primary [kind] (.constant v) := by
  intro ts rest hts
  obtain ⟨a, rfl⟩ := exists_eq_singleton_of_map_kind hts
  exact ⟨.literal h, rfl⟩

theorem derives_parameter :
    Derives scope .primary [.identifier scope.parameter] (.parameter scope.parameter) := by
  intro ts rest hts
  obtain ⟨a, rfl⟩ := exists_eq_singleton_of_map_kind hts
  exact ⟨.parameter rfl, rfl⟩

theorem derives_paren {e : Expr} (h : Derives scope (.level 6) kinds e) :
    Derives scope .primary (.leftParen :: (kinds ++ [.rightParen])) e := by
  intro ts rest hts
  obtain ⟨a, ts', rfl, hts'⟩ := exists_eq_cons_of_map_kind hts
  obtain ⟨inner, ts'', rfl, hinner, hts''⟩ := List.map_eq_append_iff.mp hts'
  obtain ⟨b, rfl⟩ := exists_eq_singleton_of_map_kind hts''
  rw [List.cons_append, List.append_assoc]
  obtain ⟨d, rfl⟩ := h inner (⟨.rightParen, b⟩ :: rest) hinner
  exact ⟨.paren d, rfl⟩

theorem derives_list {es : List Expr} (h : Derives scope .args kinds es) :
    Derives scope .primary (.leftBracket :: (kinds ++ [.rightBracket])) (.list es) := by
  intro ts rest hts
  obtain ⟨a, ts', rfl, hts'⟩ := exists_eq_cons_of_map_kind hts
  obtain ⟨items, ts'', rfl, hitems, hts''⟩ := List.map_eq_append_iff.mp hts'
  obtain ⟨b, rfl⟩ := exists_eq_singleton_of_map_kind hts''
  rw [List.cons_append, List.append_assoc]
  obtain ⟨d, rfl⟩ := h items (⟨.rightBracket, b⟩ :: rest) hitems
  exact ⟨.list d, rfl⟩

theorem derives_static {name : String} {es : List Expr} (hn : name ≠ scope.parameter)
    (h : Derives scope .args kinds es) :
    Derives scope .primary (.identifier name :: .leftParen :: (kinds ++ [.rightParen]))
      (.staticCall name es) := by
  intro ts rest hts
  obtain ⟨a, ts₁, rfl, hts₁⟩ := exists_eq_cons_of_map_kind hts
  obtain ⟨b, ts₂, rfl, hts₂⟩ := exists_eq_cons_of_map_kind hts₁
  obtain ⟨args, ts₃, rfl, hargs, hts₃⟩ := List.map_eq_append_iff.mp hts₂
  obtain ⟨c, rfl⟩ := exists_eq_singleton_of_map_kind hts₃
  rw [List.cons_append, List.cons_append, List.append_assoc]
  obtain ⟨d, rfl⟩ := h args (⟨.rightParen, c⟩ :: rest) hargs
  exact ⟨.static hn d, rfl⟩

/-! ## Members and calls -/

theorem Derives.access {e : Expr} (h : Derives scope .primary kinds e) :
    DerivesAccess scope kinds e := by
  intro ts rest hts
  obtain ⟨d, hd⟩ := h ts rest hts
  exact ⟨rest, d, .bare, hd⟩

/-- Members and calls behind others. -/
theorem Derivation.exists_append {t u : List Token} (d' : Derivation scope .suffixes t u) :
    ∀ {s : List Token} (d : Derivation scope .suffixes s t),
      ∃ d'' : Derivation scope .suffixes s u, d''.tree = d.tree ++ d'.tree
  | _, .bare => ⟨d', rfl⟩
  | _, .member others => by
    obtain ⟨d'', h⟩ := d'.exists_append others
    exact ⟨.member d'', congrArg _ h⟩
  | _, .call row others => by
    obtain ⟨d'', h⟩ := d'.exists_append others
    exact ⟨.call row d'', congrArg _ h⟩

/-- What is behind a target becomes the last of its members and calls. -/
theorem DerivesAccess.append {e : Expr} {suffix : String × Option (List Expr)}
    (h : DerivesAccess scope kinds e) (hs : Derives scope .suffixes kinds' [suffix]) :
    DerivesAccess scope (kinds ++ kinds') (access e [suffix]) := by
  intro ts rest hts
  obtain ⟨ts₁, ts₂, rfl, hts₁, hts₂⟩ := List.map_eq_append_iff.mp hts
  rw [List.append_assoc]
  obtain ⟨t, target, suffixes, rfl⟩ := h ts₁ (ts₂ ++ rest) hts₁
  obtain ⟨last, hlast⟩ := hs ts₂ rest hts₂
  obtain ⟨all, hall⟩ := last.exists_append suffixes
  refine ⟨t, target, all, ?_⟩
  rw [hall, hlast]
  exact List.foldl_append

theorem derives_member {name : String} :
    Derives scope .suffixes [.dot, .identifier name] [(name, none)] := by
  intro ts rest hts
  obtain ⟨a, ts', rfl, hts'⟩ := exists_eq_cons_of_map_kind hts
  obtain ⟨b, rfl⟩ := exists_eq_singleton_of_map_kind hts'
  exact ⟨.member .bare, rfl⟩

theorem derives_call {name : String} {es : List Expr} (h : Derives scope .args kinds es) :
    Derives scope .suffixes (.dot :: .identifier name :: .leftParen :: (kinds ++ [.rightParen]))
      [(name, some es)] := by
  intro ts rest hts
  obtain ⟨a, ts₁, rfl, hts₁⟩ := exists_eq_cons_of_map_kind hts
  obtain ⟨b, ts₂, rfl, hts₂⟩ := exists_eq_cons_of_map_kind hts₁
  obtain ⟨c, ts₃, rfl, hts₃⟩ := exists_eq_cons_of_map_kind hts₂
  obtain ⟨args, ts₄, rfl, hargs, hts₄⟩ := List.map_eq_append_iff.mp hts₃
  obtain ⟨d, rfl⟩ := exists_eq_singleton_of_map_kind hts₄
  rw [List.cons_append, List.cons_append, List.cons_append, List.append_assoc]
  obtain ⟨row, rfl⟩ := h args (⟨.rightParen, d⟩ :: rest) hargs
  exact ⟨.call row .bare, rfl⟩

/-! ## Arguments -/

theorem derives_noArgs : Derives scope .args [] [] := by
  intro ts rest hts
  obtain rfl := List.map_eq_nil_iff.mp hts
  exact ⟨.noArgs, rfl⟩

theorem derives_arg {e : Expr} (h : Derives scope (.level 6) kinds e) :
    Derives scope .args kinds [e] := by
  intro ts rest hts
  obtain ⟨d, rfl⟩ := h ts rest hts
  exact ⟨.args d .lastArg, rfl⟩

/-- Arguments with a comma before them follow another argument. -/
theorem Derivation.exists_moreArgs {s t : List Token} {e : Expr} {es : List Expr} (a : Span)
    (d : Derivation scope .args s t) (h : d.tree = e :: es) :
    ∃ d' : Derivation scope .moreArgs (⟨.comma, a⟩ :: s) t, d'.tree = e :: es := by
  cases d with
  | noArgs => cases h
  | args first others => exact ⟨.nextArg first others, h⟩

/-- An argument in front of others. -/
theorem derives_args {e e' : Expr} {es : List Expr} (h : Derives scope (.level 6) kinds e)
    (hs : Derives scope .args kinds' (e' :: es)) :
    Derives scope .args (kinds ++ .comma :: kinds') (e :: e' :: es) := by
  intro ts rest hts
  obtain ⟨ts₁, ts₂, rfl, hts₁, hts₂⟩ := List.map_eq_append_iff.mp hts
  obtain ⟨a, ts₃, rfl, hts₃⟩ := exists_eq_cons_of_map_kind hts₂
  rw [List.append_assoc]
  obtain ⟨first, rfl⟩ := h ts₁ (⟨.comma, a⟩ :: ts₃ ++ rest) hts₁
  obtain ⟨second, hsecond⟩ := hs ts₃ rest hts₃
  obtain ⟨others, hothers⟩ := second.exists_moreArgs a hsecond
  exact ⟨.args first others, congrArg _ hothers⟩

end RecordQuery.Grammar
