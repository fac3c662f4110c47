import RecordQuery.Lambda.Lexer
import RecordQuery.Proofs.Decimal.Digits
import RecordQuery.Proofs.Text.Blank

/-!
# Tokens of texts put together

A text that is put together from pieces has the tokens of the pieces, if no piece runs on into the next.
`LexesTo` says this of one piece in front of the others, and `LexesTo.append` puts pieces together. The
pieces are signs, names, strings and numbers. What may follow a name or a number is said by `Stops`.
-/

namespace RecordQuery.Lexer

variable {c : Char} {cs more rest : List Char} {kind : TokenKind}

/-! ## One token after the other -/

theorem tokensFrom_nil (start : Nat) : tokensFrom start [] = [] := by
  rw [tokensFrom]
  rfl

/-- A blank in front is skipped. -/
theorem tokensFrom_blank (hc : Text.isBlank c = true) (start : Nat) :
    tokensFrom start (c :: rest) = tokensFrom (start + c.utf8Size) rest := by
  have hd : (c :: rest).dropWhile Text.isBlank = rest.dropWhile Text.isBlank :=
    List.dropWhile_cons_of_pos hc
  have ht : byteLength ((c :: rest).takeWhile Text.isBlank) =
      c.utf8Size + byteLength (rest.takeWhile Text.isBlank) := by
    rw [List.takeWhile_cons_of_pos hc, byteLength]
  rw [tokensFrom, tokensFrom]
  simp only [ht, ← Nat.add_assoc]
  split <;> split <;> simp_all

/-- Any other character begins a token. -/
theorem tokensFrom_token (hc : Text.isBlank c = false) (start : Nat) :
    tokensFrom start (c :: rest) =
      ⟨(scan c rest).1, ⟨start, start + byteLength (c :: rest.take (scan c rest).2)⟩⟩ ::
        tokensFrom (start + byteLength (c :: rest.take (scan c rest).2))
          (rest.drop (scan c rest).2) := by
  have hc' : ¬ Text.isBlank c = true := Bool.eq_false_iff.mp hc
  rw [tokensFrom]
  split
  · rename_i h
    rw [List.dropWhile_cons_of_neg hc'] at h
    cases h
  · rename_i h
    rw [List.dropWhile_cons_of_neg hc'] at h
    cases h
    rw [List.takeWhile_cons_of_neg hc']
    rfl

theorem start_le_of_tokensFrom_cons {start : Nat} {t : Token} {ts : List Token}
    (h : tokensFrom start cs = t :: ts) : start ≤ t.span.start := by
  rw [tokensFrom] at h
  split at h
  · cases h
  · cases h
    exact Nat.le_add_right _ _

/-! ## What a character begins -/

/-- The characters that begin a sign or a string. -/
def signs : List Char :=
  ['(', ')', '[', ']', '.', ',', '+', '-', '*', '/', '<', '>', '!', '=', '&', '|', '"']

theorem scan_of_not_mem_signs (h : c ∉ signs) :
    scan c rest =
      if Text.isDigit c then scanNumber c rest
      else if beginsName c then scanName c rest else (.illegal, 0) := by
  simp only [signs, List.mem_cons, List.not_mem_nil, or_false, not_or] at h
  simp only [scan, h, ↓reduceIte]

theorem scan_digit (h : Text.isDigit c = true) : scan c rest = scanNumber c rest := by
  have hsigns : ∀ d ∈ signs, ¬Text.isDigit d = true := List.any_eq_false.mp rfl
  have hc : c ∉ signs := fun hc => hsigns c hc h
  rw [scan_of_not_mem_signs hc, if_pos h]

theorem scan_beginsName (hb : beginsName c = true) (hd : Text.isDigit c = false) :
    scan c rest = scanName c rest := by
  have hsigns : ∀ d ∈ signs, ¬beginsName d = true := List.any_eq_false.mp rfl
  have hc : c ∉ signs := fun hc => hsigns c hc hb
  rw [scan_of_not_mem_signs hc, if_neg (Bool.eq_false_iff.mp hd), if_pos hb]

theorem scan_quote : scan '"' rest = scanString rest := by
  simp only [scan, Char.reduceEq, ↓reduceIte]

theorem scan_sign_ne_identifier {name : String} (h : c ∈ signs) :
    (scan c rest).1 ≠ .identifier name := by
  simp only [signs, List.mem_cons, List.not_mem_nil, or_false] at h
  rcases h with rfl | rfl | rfl | rfl | rfl | rfl | rfl | rfl | rfl | rfl | rfl | rfl | rfl | rfl |
    rfl | rfl | rfl
  all_goals
    simp only [scan, either, scanString, Char.reduceEq, ↓reduceIte]
    repeat' split
    all_goals nofun

theorem scanNumber_ne_identifier {name : String} : (scanNumber c rest).1 ≠ .identifier name := by
  unfold scanNumber
  simp only
  split
  · unfold numberKind
    split <;> nofun
  · nofun

/-- Only a name is read as one. -/
theorem beginsName_of_scan {name : String} (h : (scan c rest).1 = .identifier name) :
    beginsName c = true ∧ Text.isDigit c = false := by
  have hc : c ∉ signs := fun hc => scan_sign_ne_identifier hc h
  rw [scan_of_not_mem_signs hc] at h
  split at h
  · exact absurd h scanNumber_ne_identifier
  · rename_i hd
    split at h
    · rename_i hb
      exact ⟨hb, Bool.eq_false_iff.mpr hd⟩
    · cases h

/-! ## Names -/

/-- Whether a text is a name: a single token covers it. -/
def IsName (s : String) : Prop :=
  tokens s = [⟨.identifier s, ⟨0, byteLength s.toList⟩⟩]

theorem nameKind_eq_identifier {s name : String} (h : nameKind s = .identifier name) : s = name := by
  unfold nameKind at h
  split at h
  · cases h
  · split at h
    · cases h
    · split at h
      · cases h
      · exact TokenKind.identifier.inj h

/-- What a name is made of. -/
structure Name (s : String) (c : Char) (more : List Char) : Prop where
  chars : s.toList = c :: more
  notBlank : Text.isBlank c = false
  begins : beginsName c = true
  notDigit : Text.isDigit c = false
  continues : ∀ d ∈ more, continuesName d = true
  notKeyword : nameKind s = .identifier s

theorem IsName.exists_name {s : String} (h : IsName s) : ∃ c more, Name s c more := by
  unfold IsName tokens at h
  cases hs : s.toList with
  | nil =>
    rw [hs, tokensFrom_nil] at h
    cases h
  | cons c rest =>
    have hblank : Text.isBlank c = false := by
      -- a blank in front is no part of the token, which begins at 0
      refine Bool.eq_false_iff.mpr fun hc => ?_
      rw [hs, tokensFrom_blank hc] at h
      have hle : 0 + c.utf8Size ≤ 0 := start_le_of_tokensFrom_cons h
      have hpos := c.utf8Size_pos
      omega
    rw [hs, tokensFrom_token hblank] at h
    have hkind : (scan c rest).1 = .identifier s := congrArg Token.kind (List.cons.inj h).1
    obtain ⟨hb, hd⟩ := beginsName_of_scan hkind
    rw [scan_beginsName hb hd] at hkind
    have hname : String.ofList (c :: rest.takeWhile continuesName) = s :=
      nameKind_eq_identifier hkind
    have hchars := congrArg String.toList hname
    rw [String.toList_ofList, hs] at hchars
    have hall : rest.takeWhile continuesName = rest := (List.cons.inj hchars).2
    exact ⟨c, rest, hs, hblank, hb, hd, List.takeWhile_eq_self_iff.mp hall, hname ▸ hkind⟩

theorem Name.isName {s : String} (h : Name s c more) : IsName s := by
  have htake : more.takeWhile continuesName = more := List.takeWhile_eq_self_iff.mpr h.continues
  have hchars : String.ofList (c :: more) = s := by rw [← h.chars, String.ofList_toList]
  have hscan : scan c more = (.identifier s, more.length) := by
    rw [scan_beginsName h.begins h.notDigit, scanName, htake, hchars, h.notKeyword]
  rw [IsName, tokens, h.chars, tokensFrom_token h.notBlank, hscan, List.take_length,
    List.drop_length, tokensFrom_nil, Nat.zero_add]

/-! ## Pieces -/

/-- The characters `cs` in front of `rest` are read as tokens of these kinds, which end where `rest`
begins. -/
def LexesTo (cs rest : List Char) (kinds : List TokenKind) : Prop :=
  ∀ start, ∃ stop ts, tokensFrom start (cs ++ rest) = ts ++ tokensFrom stop rest ∧
    ts.map (·.kind) = kinds

theorem LexesTo.append {cs' : List Char} {kinds kinds' : List TokenKind}
    (h : LexesTo cs (cs' ++ rest) kinds) (h' : LexesTo cs' rest kinds') :
    LexesTo (cs ++ cs') rest (kinds ++ kinds') := by
  intro start
  obtain ⟨middle, ts, ht, hk⟩ := h start
  obtain ⟨stop, ts', ht', hk'⟩ := h' middle
  refine ⟨stop, ts ++ ts', ?_, ?_⟩
  · rw [List.append_assoc, ht, ht', List.append_assoc]
  · rw [List.map_append, hk, hk']

theorem lexesTo_nil : LexesTo [] rest [] :=
  fun start => ⟨start, [], rfl, rfl⟩

theorem lexesTo_blank (hc : Text.isBlank c = true) : LexesTo [c] rest [] :=
  fun start => ⟨start + c.utf8Size, [], tokensFrom_blank hc start, rfl⟩

/-- A token is read if it takes exactly its characters. -/
theorem lexesTo_token (hc : Text.isBlank c = false)
    (h : scan c (more ++ rest) = (kind, more.length)) : LexesTo (c :: more) rest [kind] := by
  intro start
  have ht := @tokensFrom_token c (more ++ rest) hc start
  rw [h, List.drop_left] at ht
  exact ⟨_, [_], ht, rfl⟩

/-- A sign of one character in front of other tokens. -/
theorem LexesTo.sign {kinds : List TokenKind} (h : LexesTo cs rest kinds)
    (hc : Text.isBlank c = false) (hs : scan c (cs ++ rest) = (kind, 0)) :
    LexesTo (c :: cs) rest (kind :: kinds) :=
  (@lexesTo_token c [] (cs ++ rest) kind hc hs).append h

theorem LexesTo.space {kinds : List TokenKind} (h : LexesTo cs rest kinds) :
    LexesTo (' ' :: cs) rest kinds :=
  (@lexesTo_blank ' ' (cs ++ rest) (by decide)).append h

/-- What does not run on from a name or a number. -/
structure Stops (rest : List Char) : Prop where
  name : rest.takeWhile continuesName = []
  digits : rest.takeWhile Text.isDigit = []
  fraction : fraction rest = []

theorem stops_nil : Stops [] :=
  ⟨rfl, rfl, rfl⟩

theorem stops_cons (hn : continuesName c = false) (hd : Text.isDigit c = false) (hp : c ≠ '.') :
    Stops (c :: rest) where
  name := List.takeWhile_cons_of_neg (Bool.eq_false_iff.mp hn)
  digits := List.takeWhile_cons_of_neg (Bool.eq_false_iff.mp hd)
  fraction := by
    unfold Lexer.fraction
    split
    · rename_i h
      exact absurd (List.cons.inj h).1 hp
    · rfl

theorem stops_sign (hc : c ∈ [' ', ',', '(', ')', ']']) : Stops (c :: rest) := by
  simp only [List.mem_cons, List.not_mem_nil, or_false] at hc
  rcases hc with rfl | rfl | rfl | rfl | rfl <;>
    exact stops_cons (by decide) (by decide) (by decide)

/-- A point with a name behind it does not begin the fraction of a number. -/
theorem stops_member {s : String} (hs : IsName s) : Stops ('.' :: (s.toList ++ rest)) where
  name := List.takeWhile_cons_of_neg (by decide)
  digits := List.takeWhile_cons_of_neg (by decide)
  fraction := by
    obtain ⟨c, more, hname⟩ := hs.exists_name
    rw [hname.chars]
    exact List.takeWhile_cons_of_neg (Bool.eq_false_iff.mp hname.notDigit)

/-- A name or a keyword. -/
theorem lexesTo_word (hc : Text.isBlank c = false) (hb : beginsName c = true)
    (hd : Text.isDigit c = false) (hm : ∀ d ∈ more, continuesName d = true) (h : Stops rest) :
    LexesTo (c :: more) rest [nameKind (String.ofList (c :: more))] := by
  refine lexesTo_token hc ?_
  rw [scan_beginsName hb hd, scanName, takeWhile_append_of_stop hm h.name]

theorem lexesTo_name {s : String} (hs : IsName s) (h : Stops rest) :
    LexesTo s.toList rest [.identifier s] := by
  obtain ⟨c, more, hname⟩ := hs.exists_name
  have hword := lexesTo_word hname.notBlank hname.begins hname.notDigit hname.continues h
  rw [← hname.chars, String.ofList_toList, hname.notKeyword] at hword
  exact hword

/-- A string, up to the next quote. -/
theorem lexesTo_string {s : String} (hs : '"' ∉ s.toList) :
    LexesTo ('"' :: (s.toList ++ ['"'])) rest [.string s] := by
  have hcontent : (s.toList ++ '"' :: rest).takeWhile (· != '"') = s.toList := by
    have hne : ∀ c ∈ s.toList, (c != '"') = true := fun c hc =>
      bne_iff_ne.mpr (ne_of_mem_of_not_mem hc hs)
    exact takeWhile_append_of_stop hne (List.takeWhile_cons_of_neg (by simp))
  refine lexesTo_token (by decide) ?_
  rw [scan_quote, List.append_assoc, List.singleton_append, scanString, hcontent]
  simp

theorem isBlank_digit (h : Text.isDigit c = true) : Text.isBlank c = false := by
  have hall : ∀ n < 58, 48 ≤ n → Text.blankRanges.hasCode n = false := by decide
  simp only [Text.isDigit, Bool.and_eq_true, decide_eq_true_eq] at h
  exact hall c.toNat (Nat.lt_succ_of_le h.2) h.1

/-- A row of digits. -/
theorem lexesTo_digits (hc : Text.isDigit c = true) (hm : ∀ d ∈ more, Text.isDigit d = true)
    (h : Stops rest) : LexesTo (c :: more) rest [numberKind (c :: more)] := by
  refine lexesTo_token (isBlank_digit hc) ?_
  rw [scan_digit hc]
  simp only [scanNumber, takeWhile_append_of_stop hm h.digits,
    dropWhile_append_of_stop hm h.digits, h.fraction]

/-- A number of 64 bits. -/
theorem lexesTo_number {n : Nat} {m : Int64} (hm : int64? n = some m) (h : Stops rest) :
    LexesTo (Decimal.digits n) rest [.number m] := by
  have hall := Decimal.isDigit_of_mem_digits n
  have hkind : numberKind (Decimal.digits n) = .number m := by
    rw [numberKind, Decimal.value_digits, hm]
  cases hn : Decimal.digits n with
  | nil => exact absurd hn (Decimal.digits_ne_nil n)
  | cons c more =>
    rw [hn] at hall hkind
    rw [← hkind]
    exact lexesTo_digits (hall c List.mem_cons_self) (fun d hd => hall d (List.mem_cons_of_mem _ hd)) h

/-! ## Whole texts -/

/-- A text is read as tokens with nothing behind them. -/
theorem map_kind_tokens {s : String} {kinds : List TokenKind} (h : LexesTo s.toList [] kinds) :
    (tokens s).map (·.kind) = kinds := by
  obtain ⟨stop, ts, ht, hk⟩ := h 0
  rw [List.append_nil, tokensFrom_nil, List.append_nil] at ht
  rw [tokens, ht, hk]

end RecordQuery.Lexer
