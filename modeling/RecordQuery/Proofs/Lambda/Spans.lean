import Mathlib.Data.String.Basic
import RecordQuery.Proofs.Lambda.TokenForms
import RecordQuery.Proofs.Value.Int64

/-!
# Where tokens stand

The tokens of a text and the blanks between them make up the text (`Lexed`). `lexed_tokensFrom` shows
this token by token. From it follow by induction where the tokens stand (`Lexed.stands`), that they
follow one another (`Lexed.apart`), that only blanks are outside them (`Lexed.covers`), and that the
slices of the tokens with spaces between them are read as the same tokens (`Lexed.lexesTo_joined`).
-/

namespace RecordQuery

/-- The text in a span. -/
def Span.slice (text : String) (span : Span) : String :=
  String.Pos.Raw.extract text ⟨span.start⟩ ⟨span.stop⟩

/-- Whether the byte at a place is in a span. -/
def Span.Contains (span : Span) (place : Nat) : Prop :=
  span.start ≤ place ∧ place < span.stop

/-- A span of a text that is not empty and cuts no character. -/
structure Span.Within (text : String) (span : Span) : Prop where
  nonempty : span.start < span.stop
  start_valid : (⟨span.start⟩ : String.Pos.Raw).IsValid text
  stop_valid : (⟨span.stop⟩ : String.Pos.Raw).IsValid text

namespace Lexer

variable {c : Char} {cs more before rest : List Char} {kind : TokenKind} {start : Nat} {t : Token}
  {ts : List Token}

/-! ## Bytes -/

theorem byteLength_eq_utf8Len (cs : List Char) : byteLength cs = String.utf8Len cs := by
  induction cs with
  | nil => rfl
  | cons c cs ih => rw [byteLength, ih, String.utf8Len_cons, Nat.add_comm]

theorem byteLength_cons (c : Char) (cs : List Char) :
    byteLength (c :: cs) = c.utf8Size + byteLength cs := rfl

theorem byteLength_append (cs cs' : List Char) :
    byteLength (cs ++ cs') = byteLength cs + byteLength cs' := by
  rw [byteLength_eq_utf8Len, byteLength_eq_utf8Len, byteLength_eq_utf8Len, String.utf8Len_append]

theorem byteLength_pos (c : Char) (cs : List Char) : 0 < byteLength (c :: cs) :=
  Nat.add_pos_left c.utf8Size_pos _

/-- The slice between what is before it and what is behind it. -/
theorem slice_eq {text : String} {slice : List Char} (h : text.toList = before ++ slice ++ rest) :
    Span.slice text ⟨byteLength before, byteLength before + byteLength slice⟩ = String.ofList slice := by
  rw [Span.slice, ← String.ofList_toList (s := text), h, byteLength_eq_utf8Len, byteLength_eq_utf8Len]
  exact String.extract_of_valid before slice rest

theorem isValid_byteLength {text : String} (h : text.toList = before ++ rest) :
    (⟨byteLength before⟩ : String.Pos.Raw).IsValid text := by
  refine String.Pos.Raw.isValid_iff_exists_append.mpr ⟨String.ofList before, String.ofList rest, ?_, ?_⟩
  · rw [← String.ofList_append, ← h, String.ofList_toList]
  · rw [String.rawEndPos_ofList, byteLength_eq_utf8Len]

/-! ## Blanks and tokens -/

/-- The characters from byte `start` on are blanks and tokens. -/
inductive Lexed : Nat → List Char → List Token → Prop
  | nil (start : Nat) : Lexed start [] []
  | blank {start : Nat} {c : Char} {rest : List Char} {ts : List Token}
      (hc : Text.isBlank c = true) (h : Lexed (start + c.utf8Size) rest ts) :
      Lexed start (c :: rest) ts
  | token {start : Nat} {kind : TokenKind} {c : Char} {more rest : List Char} {ts : List Token}
      (hc : Text.isBlank c = false) (hform : Form kind c more rest)
      (h : Lexed (start + byteLength (c :: more)) rest ts) :
      Lexed start (c :: more ++ rest) (⟨kind, ⟨start, start + byteLength (c :: more)⟩⟩ :: ts)

theorem lexed_tokensFrom (start : Nat) (cs : List Char) : Lexed start cs (tokensFrom start cs) := by
  induction hn : cs.length using Nat.strong_induction_on generalizing start cs with
  | _ n ih =>
    cases cs with
    | nil =>
      rw [tokensFrom_nil]
      exact .nil start
    | cons c rest =>
      cases hc : Text.isBlank c with
      | true =>
        rw [tokensFrom_blank hc]
        exact .blank hc (ih rest.length (by simp [← hn]) _ _ rfl)
      | false =>
        have hlt : (rest.drop (scan c rest).2).length < n := by
          rw [← hn, List.length_drop, List.length_cons]
          omega
        have htoken := Lexed.token hc (form_scan c rest) (ih _ hlt (start + _) _ rfl)
        rw [List.cons_append, List.take_append_drop] at htoken
        rw [tokensFrom_token hc]
        exact htoken

/-- Each token stands somewhere in the text. -/
theorem Lexed.stands (h : Lexed start cs ts) (ht : t ∈ ts) :
    ∃ before c more rest, cs = before ++ c :: more ++ rest ∧
      t.span = ⟨start + byteLength before, start + byteLength before + byteLength (c :: more)⟩ ∧
      Text.isBlank c = false ∧ Form t.kind c more rest := by
  induction h with
  | nil => cases ht
  | @blank start c _ _ _ _ ih =>
    obtain ⟨before, d, more, rest, rfl, hspan, htoken⟩ := ih ht
    refine ⟨c :: before, d, more, rest, rfl, ?_, htoken⟩
    rw [hspan, byteLength_cons c before, Nat.add_assoc start]
  | @token start _ c more rest _ hc hform _ ih =>
    rcases List.mem_cons.mp ht with rfl | ht
    · exact ⟨[], c, more, rest, rfl, rfl, hc, hform⟩
    · obtain ⟨before, d, more', rest', rfl, hspan, htoken⟩ := ih ht
      refine ⟨c :: more ++ before, d, more', rest', ?_, ?_, htoken⟩
      · simp only [List.append_assoc, List.cons_append]
      · rw [hspan, byteLength_append, Nat.add_assoc start]

/-- The tokens follow one another. -/
theorem Lexed.apart (h : Lexed start cs ts) :
    (∀ t ∈ ts, start ≤ t.span.start) ∧ ts.Pairwise fun t u => t.span.stop ≤ u.span.start := by
  induction h with
  | nil => exact ⟨nofun, .nil⟩
  | blank _ _ ih => exact ⟨fun t ht => Nat.le_trans (Nat.le_add_right ..) (ih.1 t ht), ih.2⟩
  | token _ _ _ ih =>
    refine ⟨fun t ht => ?_, List.pairwise_cons.mpr ih⟩
    rcases List.mem_cons.mp ht with rfl | ht
    · exact Nat.le_refl _
    · exact Nat.le_trans (Nat.le_add_right ..) (ih.1 t ht)

/-- A character is blank or in a token. -/
theorem Lexed.covers (h : Lexed start cs ts) (hcs : cs = before ++ c :: rest) :
    Text.isBlank c = true ∨ ∃ t ∈ ts, t.span.Contains (start + byteLength before) := by
  induction h generalizing before with
  | nil => simp at hcs
  | @blank start d rest' ts hd _ ih =>
    cases before with
    | nil => exact .inl ((List.cons.inj hcs).1 ▸ hd)
    | cons b before =>
      obtain ⟨rfl, htail⟩ := List.cons.inj hcs
      rw [byteLength_cons, ← Nat.add_assoc]
      exact ih htail
  | @token start kind d more rest' ts _ _ _ ih =>
    have hwhere : (∃ between, before = d :: more ++ between ∧ rest' = between ++ c :: rest) ∨
        ∃ inside, d :: more = before ++ c :: inside := by
      rcases List.append_eq_append_iff.mp hcs with ⟨between, hb, hr⟩ | ⟨inside, hin, hr⟩
      · exact .inl ⟨between, hb, hr⟩
      · rcases List.cons_eq_append_iff.mp hr with ⟨rfl, hr⟩ | ⟨inside, rfl, -⟩
        · exact .inl ⟨[], by rw [hin, List.append_nil, List.append_nil], hr.symm⟩
        · exact .inr ⟨inside, hin⟩
    rcases hwhere with ⟨between, rfl, hrest⟩ | ⟨inside, hinside⟩
    · rw [byteLength_append, ← Nat.add_assoc]
      exact (ih hrest).imp_right fun ⟨t, ht, hspan⟩ => ⟨t, List.mem_cons_of_mem _ ht, hspan⟩
    · refine .inr ⟨_, List.mem_cons_self, Nat.le_add_right .., ?_⟩
      rw [hinside, byteLength_append]
      exact Nat.add_lt_add_left (Nat.lt_add_of_pos_right (byteLength_pos ..)) _

/-- The slices of the tokens of a text, with spaces between them, are read as the same tokens. -/
theorem Lexed.lexesTo_joined {text : String} (h : Lexed start cs ts)
    (htext : text.toList = before ++ cs) (hstart : byteLength before = start) :
    LexesTo ([' '].intercalate (ts.map fun t => (t.span.slice text).toList)) [] (ts.map (·.kind)) := by
  induction h generalizing before with
  | nil => exact lexesTo_nil
  | @blank start c rest ts _ _ ih =>
    have htext' : text.toList = before ++ [c] ++ rest := by
      rw [htext, List.append_assoc, List.singleton_append]
    exact ih htext' (by rw [byteLength_append, hstart, byteLength, byteLength, Nat.add_zero])
  | @token start kind c more rest ts hc hform h ih =>
    have htext' : text.toList = before ++ c :: more ++ rest := by rw [htext, List.append_assoc]
    have hslice : Span.slice text ⟨start, start + byteLength (c :: more)⟩ = String.ofList (c :: more) := by
      rw [← hstart]
      exact slice_eq htext'
    have hjoined := ih htext' (by rw [byteLength_append, hstart])
    rw [List.map_cons, List.map_cons, hslice, String.toList_ofList]
    cases ts with
    | nil =>
      rw [List.map_nil, List.intercalate_singleton]
      exact hform.lexesTo hc (.inl rfl)
    | cons t ts =>
      have hrest : rest ≠ [] := by
        rintro rfl
        cases h
      rw [List.map_cons, List.intercalate_cons_cons, List.append_assoc]
      exact (hform.lexesTo hc (.inr ⟨hrest, rfl⟩)).append hjoined.space

/-! ## What tokens hold -/

/-- What a token of this kind holds is what its slice says. -/
def TrueTo (slice : String) : TokenKind → Prop
  | .wordTrue => slice = "true"
  | .wordFalse => slice = "false"
  | .wordNull => slice = "null"
  | .identifier name => slice = name
  | .string content => slice = "\"" ++ content ++ "\""
  | .number n => slice.toList.all Text.isDigit = true ∧ (Decimal.value slice.toList : Int) = n.toInt
  | .float x => ∃ whole fraction, slice.toList = whole ++ '.' :: fraction ∧
      (whole ++ fraction).all Text.isDigit = true ∧
      x = Float.ofScientific (Decimal.value (whole ++ fraction)) true fraction.length
  | .illegal => True
  | kind => ∃ c more, (c, more, kind) ∈ signForms ∧ slice.toList = c :: more

theorem trueTo_signForm (h : (c, more, kind) ∈ signForms) : TrueTo (String.ofList (c :: more)) kind := by
  cases kind with
  | illegal => trivial
  | wordTrue | wordFalse | wordNull | identifier | string | number | float => simp [signForms] at h
  | _ => exact ⟨c, more, h, String.toList_ofList⟩

theorem trueTo_nameKind (name : String) : TrueTo name (nameKind name) := by
  unfold nameKind
  split
  · assumption
  · split
    · assumption
    · split
      · assumption
      · rfl

theorem trueTo_numberKind {digits : List Char} (h : digits.all Text.isDigit = true) :
    TrueTo (String.ofList digits) (numberKind digits) := by
  unfold numberKind
  split
  · rename_i hvalue
    rw [TrueTo, String.toList_ofList]
    exact ⟨h, (int64?_eq_some.mp hvalue).symm⟩
  · trivial

theorem Form.trueTo (h : Form kind c more rest) : TrueTo (String.ofList (c :: more)) kind := by
  cases h with
  | sign h => exact trueTo_signForm h
  | string => simp [TrueTo, ← String.toList_inj]
  | openString | other => trivial
  | number hc hm => exact trueTo_numberKind (by simpa [hc] using hm)
  | @float _ more after _ hc hm _ ha =>
    refine ⟨c :: more, after, String.toList_ofList, ?_, rfl⟩
    simp only [List.cons_append, List.all_cons, List.all_append, hc, List.all_eq_true.mpr hm,
      List.all_eq_true.mpr ha, Bool.and_self]
  | name => exact trueTo_nameKind _

/-- The tokens of a text stand one behind the other, and only blanks are outside them. Each holds what its
slice says and can be read from its slice alone. All can be read from their slices with spaces
between them. -/
theorem tokens_faithful (text : String) :
    (∀ t ∈ tokens text, t.span.Within text ∧ TrueTo (t.span.slice text) t.kind ∧
        (tokens (t.span.slice text)).map (·.kind) = [t.kind]) ∧
      (tokens text).Pairwise (fun t u => t.span.stop ≤ u.span.start) ∧
      (∀ before c rest, text.toList = before ++ c :: rest →
        Text.isBlank c = true ∨ ∃ t ∈ tokens text, t.span.Contains (byteLength before)) ∧
      (tokens (" ".intercalate ((tokens text).map (·.span.slice text)))).map (·.kind) =
        (tokens text).map (·.kind) := by
  have h : Lexed 0 text.toList (tokens text) := lexed_tokensFrom 0 text.toList
  refine ⟨fun t ht => ?_, h.apart.2, fun before c rest hcs => ?_, ?_⟩
  · obtain ⟨before, c, more, rest, htext, hspan, hc, hform⟩ := h.stands ht
    rw [Nat.zero_add] at hspan
    have hslice : t.span.slice text = String.ofList (c :: more) := by
      rw [hspan]
      exact slice_eq htext
    rw [hslice]
    refine ⟨?_, hform.trueTo, map_kind_tokens ?_⟩
    · rw [hspan]
      refine ⟨Nat.lt_add_of_pos_right (byteLength_pos ..), ?_, ?_⟩
      · exact isValid_byteLength (htext.trans (List.append_assoc ..))
      · rw [← byteLength_append]
        exact isValid_byteLength htext
    · rw [String.toList_ofList]
      exact hform.lexesTo hc (.inl rfl)
  · have hcovers := h.covers hcs
    rw [Nat.zero_add] at hcovers
    exact hcovers
  · refine map_kind_tokens ?_
    have hjoined := h.lexesTo_joined (List.nil_append _).symm rfl
    rw [String.toList_intercalate, List.map_map]
    exact hjoined

/-- A text with a token of every kind. The sign at its end stands for nothing. -/
example :
    (tokens "2.5*-f.g(x=>!true,[1])&&a==false||null!=b/c+\"s\"<4<=5>6>=7 =").map (·.kind) =
      [.float (Float.ofScientific 25 true 1), .star, .minus, .identifier "f", .dot, .identifier "g",
        .leftParen, .identifier "x", .arrow, .bang, .wordTrue, .comma, .leftBracket, .number 1,
        .rightBracket, .rightParen, .andAlso, .identifier "a", .equal, .wordFalse, .orElse, .wordNull,
        .notEqual, .identifier "b", .slash, .identifier "c", .plus, .string "s", .less, .number 4,
        .lessEqual, .number 5, .greater, .number 6, .greaterEqual, .number 7, .illegal] := by
  -- the float is read apart from the others, for it is not computed
  refine (congrArg (List.map Token.kind) (tokensFrom_token rfl 0)).trans (congrArg (List.cons _) ?_)
  show (tokensFrom 3 "*-f.g(x=>!true,[1])&&a==false||null!=b/c+\"s\"<4<=5>6>=7 =".toList).map
    (·.kind) = _
  cbv

end Lexer

end RecordQuery
