import RecordQuery.Text.Combining
import RecordQuery.Text.Printable

/-!
# Quoted text

Text between double quotes, as messages show it. The quote itself, the backslash and the usual
controls have short escapes. Characters that would not show, or would change the look of the one
before them, are written by their code point.
-/

namespace RecordQuery.Text

/-- A number in hexadecimal, in small letters and without leading zeros. -/
def hexText (n : Nat) : List Char :=
  Nat.toDigits 16 n

/-- A character by its code point. -/
def codePointEscape (c : Char) : List Char :=
  '\\' :: 'u' :: '{' :: hexText c.toNat ++ ['}']

/-- A character as it stands inside quoted text. -/
def quotedChar (c : Char) : List Char :=
  if c = Char.ofNat 0 then ['\\', '0']
  else if c = '\t' then ['\\', 't']
  else if c = '\r' then ['\\', 'r']
  else if c = '\n' then ['\\', 'n']
  else if c = '"' ∨ c = '\\' then ['\\', c]
  else if isCombining c then codePointEscape c
  else if isPrintable c then [c]
  else codePointEscape c

/-- A text between double quotes. -/
def quoted (s : String) : String :=
  String.ofList ('"' :: s.toList.flatMap quotedChar ++ ['"'])

end RecordQuery.Text
