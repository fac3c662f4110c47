import RecordQuery.Proofs.Lambda.Lexemes

/-!
# What tokens look like

`Form` lists the characters that make up each kind of token. What `scan` takes always has such a form
(`form_scan`). A form is read as a token of its kind also where it stands alone or has a space behind
it (`Form.lexesTo`), because no form goes on with a space. Only a string without a closing quote would
run on, and nothing is left behind it.
-/

namespace RecordQuery.Lexer

variable {c : Char} {more rest rest' : List Char} {kind : TokenKind}

/-! ## Signs -/

/-- The signs, by their first character and the others. Parts of signs are illegal. -/
def signForms : List (Char × List Char × TokenKind) :=
  [('(', [], .leftParen), (')', [], .rightParen), ('[', [], .leftBracket), (']', [], .rightBracket),
    ('.', [], .dot), (',', [], .comma), ('+', [], .plus), ('-', [], .minus), ('*', [], .star),
    ('/', [], .slash), ('<', ['='], .lessEqual), ('<', [], .less), ('>', ['='], .greaterEqual),
    ('>', [], .greater), ('!', ['='], .notEqual), ('!', [], .bang), ('=', ['='], .equal),
    ('=', ['>'], .arrow), ('=', [], .illegal), ('&', ['&'], .andAlso), ('&', [], .illegal),
    ('|', ['|'], .orElse), ('|', [], .illegal)]

theorem either_mem_signForms {second : Char} {long short : TokenKind}
    (hlong : (c, [second], long) ∈ signForms) (hshort : (c, [], short) ∈ signForms) :
    (c, rest.take (either second long short rest).2, (either second long short rest).1) ∈ signForms := by
  unfold either
  split
  · rename_i h
    obtain ⟨more, rfl⟩ := List.head?_eq_some_iff.mp h
    exact hlong
  · exact hshort

theorem scan_equals_mem_signForms :
    ('=', rest.take (scan '=' rest).2, (scan '=' rest).1) ∈ signForms := by
  simp only [scan, Char.reduceEq, ↓reduceIte]
  split
  · rename_i h
    obtain ⟨more, rfl⟩ := List.head?_eq_some_iff.mp h
    simp [signForms]
  · exact either_mem_signForms (by simp [signForms]) (by simp [signForms])

theorem scan_mem_signForms (hc : c ∈ signs) (hquote : c ≠ '"') :
    (c, rest.take (scan c rest).2, (scan c rest).1) ∈ signForms := by
  by_cases hequals : c = '='
  · rw [hequals]
    exact scan_equals_mem_signForms
  · simp only [signs, List.mem_cons, hequals, hquote, List.not_mem_nil, or_false, false_or] at hc
    rcases hc with rfl | rfl | rfl | rfl | rfl | rfl | rfl | rfl | rfl | rfl | rfl | rfl | rfl | rfl |
      rfl
    all_goals
      simp only [scan, Char.reduceEq, ↓reduceIte]
      first
        | exact either_mem_signForms (by simp [signForms]) (by simp [signForms])
        | simp [signForms]

/-- A sign is read if nothing or a space is behind it. -/
theorem lexesTo_signForm (h : (c, more, kind) ∈ signForms) (hrest : rest = [] ∨ rest.head? = some ' ') :
    LexesTo (c :: more) rest [kind] := by
  have hhead (d : Char) (hd : d ≠ ' ') : rest.head? ≠ some d := by
    rcases hrest with rfl | hspace
    · exact nofun
    · rw [hspace]
      exact fun heq => hd (Option.some.inj heq).symm
  have hblank : ∀ p ∈ signForms, Text.isBlank p.1 = false := by decide
  have hscan : ∀ p ∈ signForms, scan p.1 (p.2.1 ++ rest) = (p.2.2, p.2.1.length) := by
    simp [signForms, scan, either, hhead]
  exact lexesTo_token (hblank _ h) (hscan _ h)

/-! ## All forms -/

/-- A token of the kind is made of `c` and `more`, where `rest` is behind it. -/
inductive Form : TokenKind → Char → List Char → List Char → Prop
  | sign {kind : TokenKind} {c : Char} {more rest : List Char} (h : (c, more, kind) ∈ signForms) :
      Form kind c more rest
  | string {content rest : List Char} (h : '"' ∉ content) :
      Form (.string (String.ofList content)) '"' (content ++ ['"']) rest
  | openString {content : List Char} (h : '"' ∉ content) : Form .illegal '"' content []
  | number {c : Char} {more rest : List Char} (hc : Text.isDigit c = true)
      (hm : ∀ d ∈ more, Text.isDigit d = true) : Form (numberKind (c :: more)) c more rest
  | float {c : Char} {more after rest : List Char} (hc : Text.isDigit c = true)
      (hm : ∀ d ∈ more, Text.isDigit d = true) (hne : after ≠ [])
      (ha : ∀ d ∈ after, Text.isDigit d = true) :
      Form (floatKind (c :: more) after) c (more ++ '.' :: after) rest
  | name {c : Char} {more rest : List Char} (hb : beginsName c = true) (hd : Text.isDigit c = false)
      (hm : ∀ d ∈ more, continuesName d = true) :
      Form (nameKind (String.ofList (c :: more))) c more rest
  | other {c : Char} {rest : List Char} (hs : c ∉ signs) (hd : Text.isDigit c = false)
      (hb : beginsName c = false) : Form .illegal c [] rest

theorem form_scanString :
    Form (scanString rest).1 '"' (rest.take (scanString rest).2) (rest.drop (scanString rest).2) := by
  have hsplit := @List.takeWhile_append_dropWhile _ (· != '"') rest
  have hcontent : '"' ∉ rest.takeWhile (· != '"') := fun h => by
    simpa using List.mem_takeWhile_imp h
  unfold scanString
  generalize rest.takeWhile (· != '"') = content at hsplit hcontent
  cases hd : rest.dropWhile (· != '"') with
  | nil =>
    rw [hd, List.append_nil] at hsplit
    subst content
    simp only [Nat.lt_irrefl, ↓reduceIte, List.take_length, List.drop_length]
    exact .openString hcontent
  | cons d after =>
    have hquote : d = '"' := by
      have hhead := List.head?_dropWhile_not (· != '"') rest
      rw [hd] at hhead
      simpa using hhead
    rw [hd, hquote] at hsplit
    subst rest
    have hlt : content.length < (content ++ '"' :: after).length := by simp
    have htake : (content ++ '"' :: after).take (content.length + 1) = content ++ ['"'] := by
      rw [List.append_cons]
      exact List.take_left' List.length_append
    simp only [hlt, ↓reduceIte, htake]
    exact .string hcontent

theorem fraction_spec (h : fraction rest ≠ []) :
    (∃ behind, rest = '.' :: (fraction rest ++ behind)) ∧
      ∀ d ∈ fraction rest, Text.isDigit d = true := by
  unfold fraction at h ⊢
  split at h
  · exact ⟨⟨_, by rw [List.takeWhile_append_dropWhile]⟩, fun d hd => List.mem_takeWhile_imp hd⟩
  · exact absurd rfl h

theorem form_scanNumber (hc : Text.isDigit c = true) :
    Form (scanNumber c rest).1 c (rest.take (scanNumber c rest).2)
      (rest.drop (scanNumber c rest).2) := by
  have hsplit := @List.takeWhile_append_dropWhile _ Text.isDigit rest
  have hmore : ∀ d ∈ rest.takeWhile Text.isDigit, Text.isDigit d = true := fun d hd =>
    List.mem_takeWhile_imp hd
  unfold scanNumber
  generalize rest.takeWhile Text.isDigit = more at hsplit hmore
  generalize rest.dropWhile Text.isDigit = behind at hsplit
  subst rest
  simp only
  split
  · rw [List.take_left]
    exact .number hc hmore
  · rename_i hne
    obtain ⟨⟨behind', hbehind⟩, hafter⟩ := fraction_spec hne
    generalize fraction behind = after at hne hbehind hafter
    have htake : (more ++ behind).take (more.length + 1 + after.length) = more ++ '.' :: after := by
      rw [hbehind, ← List.cons_append, ← List.append_assoc]
      exact List.take_left' (by simp only [List.length_append, List.length_cons]; omega)
    rw [htake]
    exact .float hc hmore hne hafter

theorem form_scanName (hb : beginsName c = true) (hd : Text.isDigit c = false) :
    Form (scanName c rest).1 c (rest.take (scanName c rest).2) (rest.drop (scanName c rest).2) := by
  have htake : rest.take (rest.takeWhile continuesName).length = rest.takeWhile continuesName :=
    (List.prefix_iff_eq_take.mp (List.takeWhile_prefix _)).symm
  simp only [scanName, htake]
  exact .name hb hd fun d hd => List.mem_takeWhile_imp hd

/-- What `scan` takes has the form of its token. -/
theorem form_scan (c : Char) (rest : List Char) :
    Form (scan c rest).1 c (rest.take (scan c rest).2) (rest.drop (scan c rest).2) := by
  by_cases hquote : c = '"'
  · rw [hquote, scan_quote]
    exact form_scanString
  by_cases hc : c ∈ signs
  · exact .sign (scan_mem_signForms hc hquote)
  rw [scan_of_not_mem_signs hc]
  split
  · rename_i hd
    exact form_scanNumber hd
  · rename_i hd
    have hd := Bool.eq_false_iff.mpr hd
    split
    · rename_i hb
      exact form_scanName hb hd
    · rename_i hb
      exact .other hc hd (Bool.eq_false_iff.mpr hb)

/-! ## Forms are read as tokens -/

/-- A row of digits, a point and more digits. -/
theorem lexesTo_float {after : List Char} (hc : Text.isDigit c = true)
    (hm : ∀ d ∈ more, Text.isDigit d = true) (hne : after ≠ [])
    (ha : ∀ d ∈ after, Text.isDigit d = true) (h : Stops rest) :
    LexesTo (c :: (more ++ '.' :: after)) rest [floatKind (c :: more) after] := by
  have hpoint : ('.' :: (after ++ rest)).takeWhile Text.isDigit = [] :=
    List.takeWhile_cons_of_neg (by decide)
  have hfraction : fraction ('.' :: (after ++ rest)) = after :=
    takeWhile_append_of_stop ha h.digits
  refine lexesTo_token (isBlank_digit hc) ?_
  rw [scan_digit hc, List.append_assoc, List.cons_append]
  unfold scanNumber
  simp only [takeWhile_append_of_stop hm hpoint, dropWhile_append_of_stop hm hpoint, hfraction]
  rw [List.length_append, List.length_cons, Nat.add_assoc, Nat.add_comm 1]

/-- A string without a closing quote, with nothing behind it. -/
theorem lexesTo_openString (h : '"' ∉ more) : LexesTo ('"' :: more) [] [.illegal] := by
  have htake : more.takeWhile (· != '"') = more :=
    List.takeWhile_eq_self_iff.mpr fun d hd => bne_iff_ne.mpr (ne_of_mem_of_not_mem hd h)
  refine lexesTo_token (by decide) ?_
  rw [List.append_nil, scan_quote, scanString, htake]
  simp only [Nat.lt_irrefl, ↓reduceIte]

/-- A token is read from its form if nothing or a space is behind it. There is a space only if there was
something behind it before. -/
theorem Form.lexesTo (h : Form kind c more rest) (hc : Text.isBlank c = false)
    (hrest : rest' = [] ∨ rest ≠ [] ∧ rest'.head? = some ' ') : LexesTo (c :: more) rest' [kind] := by
  have hspace : rest' = [] ∨ rest'.head? = some ' ' := hrest.imp_right And.right
  have hstops : Stops rest' := by
    rcases hspace with rfl | hspace
    · exact stops_nil
    · obtain ⟨more, rfl⟩ := List.head?_eq_some_iff.mp hspace
      exact stops_sign (by decide)
  cases h with
  | sign h => exact lexesTo_signForm h hspace
  | @string content _ h =>
    have hstring := @lexesTo_string rest' (String.ofList content)
    rw [String.toList_ofList] at hstring
    exact hstring h
  | openString h =>
    obtain rfl : rest' = [] := hrest.resolve_right fun hne => hne.1 rfl
    exact lexesTo_openString h
  | number hd hm => exact lexesTo_digits hd hm hstops
  | float hd hm hne ha => exact lexesTo_float hd hm hne ha hstops
  | name hb hd hm => exact lexesTo_word hc hb hd hm hstops
  | other hs hd hb =>
    refine lexesTo_token hc ?_
    rw [scan_of_not_mem_signs hs, hd, hb]
    rfl

end RecordQuery.Lexer
