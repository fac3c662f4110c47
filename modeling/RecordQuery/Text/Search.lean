/-!
# Texts within texts

The three tests of one text against another: whether it begins with it, ends with it or holds it
somewhere. Every text begins with, ends with and holds the empty text.
-/

namespace RecordQuery.Text

/-- Whether `part` stands somewhere in the characters. -/
def holds (part : List Char) : List Char → Bool
  | [] => part.isEmpty
  | c :: cs => part.isPrefixOf (c :: cs) || holds part cs

/-- Whether a text begins with `part`. -/
def beginsWith (s part : String) : Bool :=
  part.toList.isPrefixOf s.toList

/-- Whether a text ends with `part`. -/
def endsWith (s part : String) : Bool :=
  part.toList.isSuffixOf s.toList

/-- Whether a text holds `part`. -/
def contains (s part : String) : Bool :=
  holds part.toList s.toList

end RecordQuery.Text
