import RecordQuery.Text.CodeRanges

/-!
# Blank characters

A blank is a character with the White_Space property. Blanks separate the words of a line and the
tokens of a lambda, and a name made of blanks alone counts as no name.
-/

namespace RecordQuery.Text

/-- The White_Space property. -/
def blankRanges : CodeRanges :=
  [(0x9, 0xD), (0x20, 0x20), (0x85, 0x85), (0xA0, 0xA0), (0x1680, 0x1680), (0x2000, 0x200A),
   (0x2028, 0x2029), (0x202F, 0x202F), (0x205F, 0x205F), (0x3000, 0x3000)]

/-- A space, a tab, a line end or another blank. -/
def isBlank (c : Char) : Bool :=
  blankRanges.has c

/-- Whether a text holds nothing but blanks. -/
def allBlank (s : String) : Bool :=
  s.toList.all isBlank

/-- The characters without the blanks around them. -/
def trimChars (cs : List Char) : List Char :=
  ((cs.dropWhile isBlank).reverse.dropWhile isBlank).reverse

/-- A text without the blanks around it. -/
def trim (s : String) : String :=
  String.ofList (trimChars s.toList)

/-- The words of a line, of which the first has been read as far as `word`, last character first. -/
def wordsFrom (word : List Char) : List Char → List (List Char)
  | [] => if word.isEmpty then [] else [word.reverse]
  | c :: cs =>
    if isBlank c then
      if word.isEmpty then wordsFrom [] cs else word.reverse :: wordsFrom [] cs
    else wordsFrom (c :: word) cs

/-- The parts of a line between its blanks. -/
def words (s : String) : List String :=
  (wordsFrom [] s.toList).map String.ofList

/-- What stands before and after the first blank of a text, if it has one. -/
def splitAtBlank? (s : String) : Option (String × String) :=
  match s.toList.dropWhile (fun c => !isBlank c) with
  | [] => none
  | _ :: rest => some (String.ofList (s.toList.takeWhile fun c => !isBlank c), String.ofList rest)

end RecordQuery.Text
