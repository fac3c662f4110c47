import RecordQuery.Expr.Text
import RecordQuery.Proofs.Lambda.Completeness
import RecordQuery.Proofs.Lambda.Derives
import RecordQuery.Proofs.Lambda.Lexemes

/-!
# Printed lambdas are read back

The text of an expression is read as tokens (`Lexer.LexesTo`), and these tokens stand for the expression
again (`Grammar.Derives`). `Printable.spells` says both at once for the expressions that have a text of
their own, by induction on them. `Lambda.parse_text` follows because the parser reads what is derived.
-/

namespace RecordQuery

open Grammar Lexer
open RecordQuery.Parser (Scope)

/-! ## Printable expressions -/

/-- Whether a member or a call behind the text of an expression belongs to all of it. Behind a sign it
belongs to the operand of the sign. -/
def Expr.TakesMembers : Expr → Prop
  | .not _ | .negate _ => False
  | .constant (.int n) => 0 ≤ n
  | _ => True

/-- An expression over the parameter `p` that has a text of its own. -/
inductive Printable (p : String) : Expr → Prop
  | parameter : Printable p (.parameter p)
  | null : Printable p (.constant .null)
  | bool (b : Bool) : Printable p (.constant (.bool b))
  | int {n : Int64} (hn : n ≠ Int64.minValue) : Printable p (.constant (.int n))
  | string {s : String} (hs : '"' ∉ s.toList) : Printable p (.constant (.string s))
  | member {e : Expr} {name : String} (he : Printable p e) (ht : e.TakesMembers)
      (hn : IsName name) : Printable p (.member e name)
  | call {e : Expr} {method : String} {args : List Expr} (he : Printable p e) (ht : e.TakesMembers)
      (hm : IsName method) (ha : ∀ a ∈ args, Printable p a) : Printable p (.call e method args)
  | staticCall {method : String} {args : List Expr} (hm : IsName method) (hp : method ≠ p)
      (ha : ∀ a ∈ args, Printable p a) : Printable p (.staticCall method args)
  | not {e : Expr} (he : Printable p e) : Printable p (.not e)
  | negate {e : Expr} (he : Printable p e) (hi : ∀ n, e ≠ .constant (.int n)) : Printable p (.negate e)
  | binary {left right : Expr} (op : BinaryOp) (hl : Printable p left) (hr : Printable p right) :
      Printable p (.binary op left right)
  | list {items : List Expr} (hi : ∀ e ∈ items, Printable p e) : Printable p (.list items)

/-! ## Words and operators -/

section Pieces

variable {rest : List Char}

theorem lexesTo_operator (op : BinaryOp) : LexesTo op.symbol.toList (' ' :: rest) [op.token] := by
  cases op <;> exact lexesTo_token (by decide) rfl

theorem lexesTo_bool (b : Bool) (h : Stops rest) :
    LexesTo (Value.boolText b).toList rest [if b then .wordTrue else .wordFalse] := by
  cases b with
  | false => exact lexesTo_word (by decide) (by decide) (by decide) (List.all_eq_true.mp rfl) h
  | true => exact lexesTo_word (by decide) (by decide) (by decide) (List.all_eq_true.mp rfl) h

theorem lexesTo_null (h : Stops rest) : LexesTo "null".toList rest [.wordNull] :=
  lexesTo_word (by decide) (by decide) (by decide) (List.all_eq_true.mp rfl) h

end Pieces

/-! ## Numbers -/

theorem int64?_natAbs {n : Int64} (hn : 0 ≤ n) : int64? n.toInt.natAbs = some n := by
  rw [Int.natAbs_of_nonneg (Int64.le_iff_toInt_le.mp hn), int64?_toInt]

theorem int64?_natAbs_of_neg {n : Int64} (hn : ¬ 0 ≤ n) (hmin : n ≠ Int64.minValue) :
    int64? n.toInt.natAbs = some (-n) := by
  have hneg : ¬ 0 ≤ n.toInt := fun h => hn (Int64.le_iff_toInt_le.mpr h)
  rw [Int.ofNat_natAbs_of_nonpos (by omega), int64?_neg, if_neg hmin]

theorem Decimal.toList_intText (n : Int) :
    (intText n).toList = if n < 0 then '-' :: digits n.natAbs else digits n.natAbs := by
  unfold intText natText
  split
  · rw [String.toList_append, String.toList_ofList, String.toList_ofList]
    rfl
  · rw [String.toList_ofList]

/-! ## Spelling -/

variable {p : String} {scope : Scope}

/-- The text of an expression is read as tokens that stand for it. -/
def Spells (scope : Scope) (e : Expr) : Prop :=
  ∀ rest, Stops rest → ∃ kinds, LexesTo e.text.toList rest kinds ∧
    Derives scope (.level 0) kinds e ∧ (e.TakesMembers → DerivesAccess scope kinds e)

/-- The text of a row of expressions is read as tokens that stand for it. -/
def SpellsArgs (scope : Scope) (es : List Expr) : Prop :=
  ∀ rest, Stops rest → ∃ kinds, LexesTo (Expr.listText es).toList rest kinds ∧
    Derives scope .args kinds es

theorem spells_of_access {e : Expr}
    (h : ∀ rest, Stops rest → ∃ kinds, LexesTo e.text.toList rest kinds ∧
      DerivesAccess scope kinds e) : Spells scope e := by
  intro rest hrest
  obtain ⟨kinds, hl, hd⟩ := h rest hrest
  exact ⟨kinds, hl, hd.level, fun _ => hd⟩

theorem spells_int {n : Int64} (hmin : n ≠ Int64.minValue) : Spells scope (.constant (.int n)) := by
  intro rest hrest
  have htext : (Expr.constant (.int n)).text.toList = (Decimal.intText n.toInt).toList := by
    simp only [Expr.text, Value.text]
  rw [htext, Decimal.toList_intText]
  by_cases hn : 0 ≤ n
  · have hpos : ¬ n.toInt < 0 := Int.not_lt.mpr (Int64.le_iff_toInt_le.mp hn)
    have haccess : DerivesAccess scope [.number n] (.constant (.int n)) :=
      (derives_literal (.number n)).access
    rw [if_neg hpos]
    exact ⟨_, lexesTo_number (int64?_natAbs hn) hrest, haccess.level, fun _ => haccess⟩
  · have hneg : n.toInt < 0 := Int.not_le.mp fun h => hn (Int64.le_iff_toInt_le.mpr h)
    -- the minus is a token of its own, and becomes part of the number again
    have hminus : (Expr.constant (.int (-n))).minus = .constant (.int n) := by
      have hne : -n ≠ -Int64.minValue := fun h => hmin (Int64.neg_inj.mp h)
      have hleast : -Int64.minValue = Int64.minValue := by decide
      rw [hleast] at hne
      rw [Expr.minus, if_neg hne, Int64.neg_neg]
    have hlit : Derives scope (.level 0) [.minus, .number (-n)] (.constant (.int n)) :=
      hminus ▸ derives_minus (derives_literal (.number (-n))).access.level
    rw [if_pos hneg]
    exact ⟨_, (lexesTo_number (int64?_natAbs_of_neg hn hmin) hrest).sign (by decide) rfl, hlit,
      fun h => absurd h hn⟩

theorem spells_member {e : Expr} {name : String} (he : Spells scope e) (ht : e.TakesMembers)
    (hn : IsName name) : Spells scope (.member e name) := by
  refine spells_of_access fun rest hrest => ?_
  obtain ⟨kinds, hl, -, hd⟩ := he ('.' :: (name.toList ++ rest)) (stops_member hn)
  have hdot : LexesTo ('.' :: name.toList) rest [.dot, .identifier name] :=
    (lexesTo_name hn hrest).sign (by decide) rfl
  refine ⟨_, ?_, (hd ht).append derives_member⟩
  simp only [Expr.text, String.toList_append, List.append_assoc]
  exact hl.append hdot

/-- The arguments of a call between their parentheses. -/
theorem spells_row {es : List Expr} (h : SpellsArgs scope es) (rest : List Char) :
    ∃ kinds, LexesTo ('(' :: ((Expr.listText es).toList ++ [')'])) rest
        (.leftParen :: (kinds ++ [.rightParen])) ∧ Derives scope .args kinds es := by
  obtain ⟨kinds, hl, hd⟩ := h (')' :: rest) (stops_sign (by decide))
  exact ⟨kinds, (hl.append (lexesTo_nil.sign (by decide) rfl)).sign (by decide) rfl, hd⟩

theorem spells_call {e : Expr} {method : String} {args : List Expr} (he : Spells scope e)
    (ht : e.TakesMembers) (hm : IsName method) (ha : SpellsArgs scope args) :
    Spells scope (.call e method args) := by
  refine spells_of_access fun rest hrest => ?_
  obtain ⟨row, hrow, hargs⟩ := spells_row ha rest
  have hname := (lexesTo_name hm (stops_sign (by decide))).append hrow
  have hstops : Stops ('.' :: (method.toList ++ '(' :: ((Expr.listText args).toList ++ [')'])) ++
      rest) := by
    rw [List.cons_append, List.append_assoc]
    exact stops_member hm
  obtain ⟨kinds, hl, -, hd⟩ := he _ hstops
  refine ⟨_, ?_, (hd ht).append (derives_call hargs)⟩
  simp only [Expr.text, String.toList_append, List.append_assoc]
  exact hl.append (hname.sign (by decide) rfl)

theorem spells_staticCall {method : String} {args : List Expr} (hm : IsName method)
    (hp : method ≠ scope.parameter) (ha : SpellsArgs scope args) :
    Spells scope (.staticCall method args) := by
  refine spells_of_access fun rest hrest => ?_
  obtain ⟨row, hrow, hargs⟩ := spells_row ha rest
  refine ⟨_, ?_, (derives_static hp hargs).access⟩
  simp only [Expr.text, String.toList_append, List.append_assoc]
  exact (lexesTo_name hm (stops_sign (by decide))).append hrow

theorem spells_list {items : List Expr} (hi : SpellsArgs scope items) :
    Spells scope (.list items) := by
  refine spells_of_access fun rest hrest => ?_
  obtain ⟨kinds, hl, hd⟩ := hi (']' :: rest) (stops_sign (by decide))
  refine ⟨_, ?_, (derives_list hd).access⟩
  simp only [Expr.text, String.toList_append, List.append_assoc]
  exact (hl.append (lexesTo_nil.sign (by decide) rfl)).sign (by decide) rfl

theorem spells_binary {left right : Expr} (op : BinaryOp) (hl : Spells scope left)
    (hr : Spells scope right) : Spells scope (.binary op left right) := by
  refine spells_of_access fun rest hrest => ?_
  obtain ⟨kinds', hright, hr, -⟩ := hr (')' :: rest) (stops_sign (by decide))
  have hoperator := (lexesTo_operator op).append
    (hright.append (lexesTo_nil.sign (by decide) rfl)).space
  obtain ⟨kinds, hleft, hl, -⟩ := hl (' ' :: _ ++ rest) (stops_sign (by decide))
  -- both operands bind more tightly than any operator
  obtain ⟨rank, hop, hrank⟩ : ∃ rank, op.rank = rank + 1 ∧ rank + 1 ≤ 6 := by
    cases op <;> exact ⟨_, rfl, by decide⟩
  have hd := derives_operator hop (hl.level_mono rank.zero_le) (hr.level_mono rank.zero_le)
  refine ⟨_, ?_, (derives_paren (hd.level_mono hrank)).access⟩
  simp only [Expr.text, String.toList_append, List.append_assoc]
  exact (hleft.append hoperator.space).sign (by decide) rfl

/-- Whether a text begins with something else than the second half of `!=`. -/
def FollowsBang (cs : List Char) : Prop :=
  ∃ c rest, cs = c :: rest ∧ c ≠ '='

theorem FollowsBang.append {cs : List Char} (h : FollowsBang cs) (more : List Char) :
    FollowsBang (cs ++ more) := by
  obtain ⟨c, rest, rfl, hc⟩ := h
  exact ⟨c, rest ++ more, rfl, hc⟩

theorem FollowsBang.scan_eq {cs : List Char} (h : FollowsBang cs) : scan '!' cs = (.bang, 0) := by
  obtain ⟨c, rest, rfl, hc⟩ := h
  exact if_neg fun h => hc (Option.some.inj h)

theorem spells_not {e : Expr} (he : Spells scope e) (hb : FollowsBang e.text.toList) :
    Spells scope (.not e) := by
  intro rest hrest
  obtain ⟨kinds, hl, hd, -⟩ := he rest hrest
  refine ⟨_, ?_, derives_not hd, nofun⟩
  simp only [Expr.text, String.toList_append]
  exact hl.sign (by decide) (hb.append rest).scan_eq

theorem spells_negate {e : Expr} (he : Spells scope e) (hminus : e.minus = .negate e) :
    Spells scope (.negate e) := by
  intro rest hrest
  obtain ⟨kinds, hl, hd, -⟩ := he rest hrest
  refine ⟨_, ?_, hminus ▸ derives_minus hd, nofun⟩
  simp only [Expr.text, String.toList_append]
  exact hl.sign (by decide) rfl

theorem spellsArgs_of_spells : ∀ {es : List Expr}, (∀ e ∈ es, Spells scope e) → SpellsArgs scope es
  | [], _ => fun _ _ => ⟨[], lexesTo_nil, derives_noArgs⟩
  | [e], h => by
    intro rest hrest
    obtain ⟨kinds, hl, hd, -⟩ := h e (List.mem_singleton_self e) rest hrest
    exact ⟨kinds, hl, derives_arg (hd.level_mono (Nat.zero_le 6))⟩
  | e :: e' :: es, h => by
    intro rest hrest
    obtain ⟨kinds', hl', hd'⟩ :=
      spellsArgs_of_spells (fun a ha => h a (List.mem_cons_of_mem e ha)) rest hrest
    obtain ⟨kinds, hl, hd, -⟩ := h e List.mem_cons_self (',' :: _ ++ rest) (stops_sign (by decide))
    refine ⟨_, ?_, derives_args (hd.level_mono (Nat.zero_le 6)) hd'⟩
    simp only [Expr.listText, String.toList_append, List.append_assoc]
    exact hl.append (hl'.space.sign (by decide) rfl)

/-! ## Printable expressions are spelled -/

theorem followsBang_name {s : String} (hs : IsName s) : FollowsBang s.toList := by
  obtain ⟨c, more, hname⟩ := hs.exists_name
  refine ⟨c, more, hname.chars, ?_⟩
  rintro rfl
  exact absurd hname.begins (by decide)

theorem followsBang_digits (n : Nat) : FollowsBang (Decimal.digits n) := by
  cases hd : Decimal.digits n with
  | nil => exact absurd hd (Decimal.digits_ne_nil n)
  | cons c cs =>
    refine ⟨c, cs, rfl, ?_⟩
    rintro rfl
    exact absurd (Decimal.isDigit_of_mem_digits n '=' (hd ▸ List.mem_cons_self)) (by decide)

theorem followsBang_intText (n : Int) : FollowsBang (Decimal.intText n).toList := by
  rw [Decimal.toList_intText]
  split
  · exact ⟨'-', _, rfl, by decide⟩
  · exact followsBang_digits _

theorem Printable.followsBang {e : Expr} (hp : IsName p) (he : Printable p e) :
    FollowsBang e.text.toList := by
  induction he with
  | parameter => exact followsBang_name hp
  | null => exact ⟨'n', _, rfl, by decide⟩
  | bool b => cases b <;> exact ⟨_, _, rfl, by decide⟩
  | int => exact followsBang_intText _
  | string =>
    simp only [Expr.text, String.toList_append]
    exact ⟨'"', _, rfl, by decide⟩
  | member _ _ _ ih =>
    simp only [Expr.text, String.toList_append]
    exact (ih.append _).append _
  | call _ _ _ _ ih _ =>
    simp only [Expr.text, String.toList_append]
    exact ((((ih.append _).append _).append _).append _).append _
  | staticCall hm _ _ _ =>
    simp only [Expr.text, String.toList_append]
    exact (((followsBang_name hm).append _).append _).append _
  | not =>
    simp only [Expr.text, String.toList_append]
    exact ⟨'!', _, rfl, by decide⟩
  | negate =>
    simp only [Expr.text, String.toList_append]
    exact ⟨'-', _, rfl, by decide⟩
  | binary =>
    simp only [Expr.text, String.toList_append, List.append_assoc]
    exact ⟨'(', _, rfl, by decide⟩
  | list =>
    simp only [Expr.text, String.toList_append, List.append_assoc]
    exact ⟨'[', _, rfl, by decide⟩

theorem Printable.minus_eq {e : Expr} (he : Printable p e) (hi : ∀ n, e ≠ .constant (.int n)) :
    e.minus = .negate e := by
  cases he with
  | @int n => exact absurd rfl (hi n)
  | _ => rfl

/-- The text of a printable expression is read as tokens that stand for it. -/
theorem Printable.spells {e : Expr} (hp : IsName p) (hs : scope.parameter = p) (he : Printable p e) :
    Spells scope e := by
  induction he with
  | parameter =>
    subst hs
    exact spells_of_access fun rest hrest => ⟨_, lexesTo_name hp hrest, derives_parameter.access⟩
  | null =>
    exact spells_of_access fun rest hrest =>
      ⟨_, lexesTo_null hrest, (derives_literal .wordNull).access⟩
  | bool b =>
    cases b with
    | false => exact spells_of_access fun rest hrest =>
        ⟨_, lexesTo_bool false hrest, (derives_literal .wordFalse).access⟩
    | true => exact spells_of_access fun rest hrest =>
        ⟨_, lexesTo_bool true hrest, (derives_literal .wordTrue).access⟩
  | int hmin => exact spells_int hmin
  | @string s hs =>
    refine spells_of_access fun rest _ => ⟨_, ?_, (derives_literal (.string s)).access⟩
    simp only [Expr.text, String.toList_append, List.append_assoc]
    exact lexesTo_string hs
  | member _ ht hn ih => exact spells_member ih ht hn
  | call _ ht hm _ ih iha => exact spells_call ih ht hm (spellsArgs_of_spells iha)
  | staticCall hm hne _ iha => exact spells_staticCall hm (hs ▸ hne) (spellsArgs_of_spells iha)
  | not he ih => exact spells_not ih (he.followsBang hp)
  | negate he hi ih => exact spells_negate ih (he.minus_eq hi)
  | binary op _ _ ihl ihr => exact spells_binary op ihl ihr
  | list _ ih => exact spells_list (spellsArgs_of_spells ih)

theorem lexesTo_lambda {e : Expr} {kinds : List TokenKind} (hp : IsName p)
    (h : LexesTo e.text.toList [] kinds) :
    LexesTo (Lambda.text ⟨p, e⟩).toList [] (.identifier p :: .arrow :: kinds) := by
  have harrow : LexesTo ('=' :: '>' :: ' ' :: e.text.toList) [] (.arrow :: kinds) :=
    (@lexesTo_token '=' ['>'] (' ' :: e.text.toList ++ []) .arrow (by decide) rfl).append h.space
  have hlambda := (lexesTo_name hp (stops_sign (by decide))).append harrow.space
  simp only [Lambda.text, String.toList_append, List.append_assoc]
  exact hlambda

/-- A lambda with a printable body is read back from its text. -/
theorem Lambda.parse_text {p : String} {e : Expr} (hp : IsName p) (he : Printable p e)
    (bindings : Fields Value) : Lambda.parse (Lambda.text ⟨p, e⟩) bindings = .ok ⟨p, e⟩ := by
  obtain ⟨kinds, hl, hd, -⟩ := he.spells hp (rfl : (Scope.mk p bindings).parameter = p) [] stops_nil
  obtain ⟨a, ts, hts, hk⟩ := exists_eq_cons_of_map_kind (map_kind_tokens (lexesTo_lambda hp hl))
  obtain ⟨b, body, rfl, hbody⟩ := exists_eq_cons_of_map_kind hk
  have hderived := hd.level_mono (Nat.zero_le 6) body [] hbody
  rw [List.append_nil] at hderived
  obtain ⟨d, rfl⟩ := hderived
  rw [Lambda.parse, hts]
  exact (LambdaDerivation.lambda d).parsed

/-- A lambda whose text has a sign before a sign, a negative number, and a member of a number. -/
def crowded : Expr :=
  .binary .andAlso (.not (.not (.member (.constant (.int 7)) "Length")))
    (.binary .subtract (.constant (.int (-3))) (.negate (.negate (.call (.parameter "x") "Size" []))))

theorem parse_text_crowded :
    IsName "x" ∧ Printable "x" crowded ∧
      Lambda.text ⟨"x", crowded⟩ = "x => (!!7.Length && (-3 - --x.Size()))" ∧
      Lambda.parse (Lambda.text ⟨"x", crowded⟩) = .ok ⟨"x", crowded⟩ := by
  have hx : IsName "x" :=
    Name.isName ⟨rfl, by decide, by decide, by decide, List.all_eq_true.mp rfl, rfl⟩
  have hlength : IsName "Length" :=
    Name.isName ⟨rfl, by decide, by decide, by decide, List.all_eq_true.mp rfl, rfl⟩
  have hsize : IsName "Size" :=
    Name.isName ⟨rfl, by decide, by decide, by decide, List.all_eq_true.mp rfl, rfl⟩
  have hp : Printable "x" crowded := by
    have hseven : Expr.TakesMembers (.constant (.int 7)) := show (0 : Int64) ≤ 7 by decide
    refine .binary _ (.not (.not (.member (.int (by decide)) hseven hlength))) ?_
    refine .binary _ (.int (by decide)) (.negate (.negate ?_ nofun) nofun)
    exact .call .parameter trivial hsize nofun
  exact ⟨hx, hp, by decide +kernel, Lambda.parse_text hx hp []⟩

end RecordQuery
