import RecordQuery.Proofs.Lambda.RoundTrip
import RecordQuery.Proofs.Translation.Shape

/-!
# Integers in lambda text

A lambda can compare a field with an integer written in decimal. Its text is read as that comparison
(`parse_comparesInt`) and translated to the condition that has the integer as its value. The least
integer alone cannot be written so. A sign is a token of its own, and the digits behind it must be an
integer by themselves, which those of the least one are not (`parse_intLiteral`).
-/

namespace RecordQuery

open Grammar Lexer
open RecordQuery.Parser (Scope)

/-- The lambda that asks whether a field of its parameter is an integer. -/
def Lambda.comparesInt (p f : String) (n : Int64) : Lambda :=
  ⟨p, .binary .equal (.member (.parameter p) f) (.constant (.int n))⟩

variable {p f : String} {n : Int64}

/-- A text is read as a lambda if its body is read as tokens that stand for an expression. -/
theorem parse_of_lexesTo {text : String} {kinds : List TokenKind} {e : Expr} {bindings : Fields Value}
    (hl : LexesTo text.toList [] (.identifier p :: .arrow :: kinds))
    (hd : Derives ⟨p, bindings⟩ (.level 6) kinds e) : Lambda.parse text bindings = .ok ⟨p, e⟩ := by
  obtain ⟨a, ts, hts, hk⟩ := exists_eq_cons_of_map_kind (map_kind_tokens hl)
  obtain ⟨b, body, rfl, hbody⟩ := exists_eq_cons_of_map_kind hk
  have hderived := hd body [] hbody
  rw [List.append_nil] at hderived
  obtain ⟨d, rfl⟩ := hderived
  rw [Lambda.parse, hts]
  exact (LambdaDerivation.lambda d).parsed

/-- A lambda that compares a field with an integer is read from its text. -/
theorem parse_comparesInt (hp : IsName p) (hf : IsName f) (hn : n ≠ Int64.minValue)
    (bindings : Fields Value) :
    Lambda.parse (p ++ " => " ++ p ++ "." ++ f ++ " == " ++ Decimal.intText n.toInt) bindings =
      .ok (Lambda.comparesInt p f n) := by
  obtain ⟨kinds, hl, hd⟩ : ∃ kinds, LexesTo (Decimal.intText n.toInt).toList [] kinds ∧
      Derives ⟨p, bindings⟩ (.level 0) kinds (.constant (.int n)) := by
    have hspells : Spells ⟨p, bindings⟩ (.constant (.int n)) := spells_int hn
    obtain ⟨kinds, hl, hd, -⟩ := hspells [] stops_nil
    simp only [Expr.text, Value.text] at hl
    exact ⟨kinds, hl, hd⟩
  have hequals := (lexesTo_operator .equal).append hl.space
  have hfield : LexesTo ('.' :: (f.toList ++ ' ' :: _)) [] (.dot :: _) :=
    ((lexesTo_name hf (stops_sign (by decide))).append hequals.space).sign (by decide) rfl
  have hmember := (lexesTo_name hp (by rw [List.append_nil]; exact stops_member hf)).append hfield
  have harrow := (@lexesTo_token '=' ['>'] _ .arrow (by decide) rfl).append hmember.space
  have hlambda := (lexesTo_name hp (stops_sign (by decide))).append harrow.space
  have hderives : Derives ⟨p, bindings⟩ (.level 6) _ (Lambda.comparesInt p f n).body :=
    (derives_operator rfl
      ((derives_parameter.access.append derives_member).level.level_mono (by decide))
      (hd.level_mono (by decide))).level_mono (by decide)
  refine parse_of_lexesTo ?_ hderives
  simp only [String.toList_append, List.append_assoc]
  exact hlambda

/-- The comparison is translated to a condition on the field with the integer as its value. -/
theorem translate_comparesInt (p f : String) (n : Int64) :
    (Lambda.comparesInt p f n).translate =
      .ok (Translation.condition f .equal (.literal (.int n))) :=
  Translation.compared_eq_ok.mpr ⟨f, rfl, rfl, rfl⟩

/-- The digits of the least integer are too large for an integer of their own. -/
theorem parse_leastInt :
    Lambda.parse ("x => x.F == " ++ Decimal.intText Int64.minValue.toInt) =
      .error (.illegal ⟨13, 32⟩) := by
  have htokens : Lexer.tokens ("x => x.F == " ++ Decimal.intText Int64.minValue.toInt) =
      [⟨.identifier "x", ⟨0, 1⟩⟩, ⟨.arrow, ⟨2, 4⟩⟩, ⟨.identifier "x", ⟨5, 6⟩⟩, ⟨.dot, ⟨6, 7⟩⟩,
        ⟨.identifier "F", ⟨7, 8⟩⟩, ⟨.equal, ⟨9, 11⟩⟩, ⟨.minus, ⟨12, 13⟩⟩, ⟨.illegal, ⟨13, 32⟩⟩] := by
    with_unfolding_all rfl
  rw [Lambda.parse, htokens]
  cbv

/-- An integer in a comparison is read as itself, and translated to a condition on the field with it as
the value. Only the least integer is not read at all: the token behind its sign is illegal. -/
theorem parse_intLiteral (n : Int64) :
    (n ≠ Int64.minValue ∧ ∃ l c, Lambda.parse ("x => x.F == " ++ Decimal.intText n.toInt) = .ok l ∧
        l.translate = .ok ⟨.and, .condition c⟩ ∧ c.field = "F" ∧ c.operator = .equal ∧
        c.value = .int n) ∨
      (n = Int64.minValue ∧ Lambda.parse ("x => x.F == " ++ Decimal.intText n.toInt) =
        .error (.illegal ⟨13, 32⟩)) := by
  by_cases hn : n = Int64.minValue
  · exact .inr ⟨hn, hn ▸ parse_leastInt⟩
  · have hx : IsName "x" :=
      Name.isName ⟨rfl, by decide, by decide, by decide, List.all_eq_true.mp rfl, rfl⟩
    have hF : IsName "F" :=
      Name.isName ⟨rfl, by decide, by decide, by decide, List.all_eq_true.mp rfl, rfl⟩
    exact .inl ⟨hn, _, _, parse_comparesInt hx hF hn [], translate_comparesInt "x" "F" n, rfl, rfl, rfl⟩

/-- Not every integer can be written in a lambda. -/
theorem not_parse_leastInt : ¬ ∀ n : Int64, ∃ l, Lambda.parse ("x => x.F == " ++
    Decimal.intText n.toInt) = .ok l := by
  intro h
  obtain ⟨l, hl⟩ := h Int64.minValue
  rw [parse_leastInt] at hl
  cases hl

end RecordQuery
