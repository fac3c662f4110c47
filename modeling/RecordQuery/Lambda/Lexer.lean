import RecordQuery.Decimal.Digits
import RecordQuery.Lambda.Token
import RecordQuery.Text.Blank
import RecordQuery.Text.Letter
import RecordQuery.Value.Basic

/-!
# From text to tokens

`tokens` takes a lambda text apart. Blanks separate tokens and belong to none. `scan` decides from a
character and what follows it which token begins there and how far it reaches, so every character of
the text is a blank or in exactly one token.
-/

namespace RecordQuery.Lexer

/-- A character that a name can begin with. -/
def beginsName (c : Char) : Bool :=
  Text.isLetter c || c = '_'

/-- A character that a name can go on with. -/
def continuesName (c : Char) : Bool :=
  Text.isLetter c || Text.isNumber c || c = '_'

/-- The token of a name, which may be a keyword. -/
def nameKind (name : String) : TokenKind :=
  if name = "true" then .wordTrue
  else if name = "false" then .wordFalse
  else if name = "null" then .wordNull
  else .identifier name

/-- The token of a row of digits. A number that needs more than 64 bits is illegal. -/
def numberKind (digits : List Char) : TokenKind :=
  match int64? (Decimal.value digits) with
  | some n => .number n
  | none => .illegal

/-- The token of digits before and after a point, which is the float nearest to them. -/
def floatKind (whole fraction : List Char) : TokenKind :=
  .float (Float.ofScientific (Decimal.value (whole ++ fraction)) true fraction.length)

/-- The digits after a point, if a point with a digit after it comes next. -/
def fraction : List Char → List Char
  | '.' :: cs => cs.takeWhile Text.isDigit
  | _ => []

/-- The number token that begins with the digit `c`, and how many characters of `rest` it takes. -/
def scanNumber (c : Char) (rest : List Char) : TokenKind × Nat :=
  let more := rest.takeWhile Text.isDigit
  match fraction (rest.dropWhile Text.isDigit) with
  | [] => (numberKind (c :: more), more.length)
  | after => (floatKind (c :: more) after, more.length + 1 + after.length)

/-- The string token whose opening quote has been read, and how many characters of `rest` it takes. A
string without a closing quote is illegal and takes all. -/
def scanString (rest : List Char) : TokenKind × Nat :=
  let content := rest.takeWhile (· != '"')
  if content.length < rest.length then (.string (String.ofList content), content.length + 1)
  else (.illegal, content.length)

/-- The name token that begins with `c`, and how many characters of `rest` it takes. -/
def scanName (c : Char) (rest : List Char) : TokenKind × Nat :=
  let more := rest.takeWhile continuesName
  (nameKind (String.ofList (c :: more)), more.length)

/-- One of two tokens, the longer one if `second` comes next. -/
def either (second : Char) (long short : TokenKind) (rest : List Char) : TokenKind × Nat :=
  if rest.head? = some second then (long, 1) else (short, 0)

/-- The token that begins with `c`, and how many characters of `rest` belong to it too. -/
def scan (c : Char) (rest : List Char) : TokenKind × Nat :=
  if c = '(' then (.leftParen, 0)
  else if c = ')' then (.rightParen, 0)
  else if c = '[' then (.leftBracket, 0)
  else if c = ']' then (.rightBracket, 0)
  else if c = '.' then (.dot, 0)
  else if c = ',' then (.comma, 0)
  else if c = '+' then (.plus, 0)
  else if c = '-' then (.minus, 0)
  else if c = '*' then (.star, 0)
  else if c = '/' then (.slash, 0)
  else if c = '<' then either '=' .lessEqual .less rest
  else if c = '>' then either '=' .greaterEqual .greater rest
  else if c = '!' then either '=' .notEqual .bang rest
  else if c = '=' then
    if rest.head? = some '=' then (.equal, 1) else either '>' .arrow .illegal rest
  else if c = '&' then either '&' .andAlso .illegal rest
  else if c = '|' then either '|' .orElse .illegal rest
  else if c = '"' then scanString rest
  else if Text.isDigit c then scanNumber c rest
  else if beginsName c then scanName c rest
  else (.illegal, 0)

/-- The bytes that characters take in UTF-8. -/
def byteLength : List Char → Nat
  | [] => 0
  | c :: cs => c.utf8Size + byteLength cs

/-- The tokens of the characters that begin at byte `start` of a text. -/
def tokensFrom (start : Nat) (cs : List Char) : List Token :=
  match _h : cs.dropWhile Text.isBlank with
  | [] => []
  | c :: rest =>
    let first := start + byteLength (cs.takeWhile Text.isBlank)
    let (kind, taken) := scan c rest
    let stop := first + byteLength (c :: rest.take taken)
    ⟨kind, ⟨first, stop⟩⟩ :: tokensFrom stop (rest.drop taken)
  termination_by cs.length
  decreasing_by
    have := (List.dropWhile_suffix (l := cs) Text.isBlank).length_le
    simp only [_h, List.length_cons, List.length_drop] at *
    omega

/-- The tokens of a text. -/
def tokens (text : String) : List Token :=
  tokensFrom 0 text.toList

end RecordQuery.Lexer
