import RecordQuery.Text.CaseTable

/-!
# Upper and lower case

Whole texts in upper or lower case. Each character is mapped by the tables of `CaseTable`, which may
yield several characters. One letter depends on its neighbours: the capital sigma becomes the final
small sigma `ς` at the end of a word and `σ` elsewhere (`endsWord`).
-/

namespace RecordQuery.Text

/-- The image of a letter under tables of sequences and of runs. A character that neither lists
stays as it is. -/
def mapCase (sequences : List (Nat × List Nat)) (runs : List CaseRun) (c : Char) : List Char :=
  match sequences.lookup c.toNat with
  | some codes => codes.map Char.ofNat
  | none =>
    match runs.findSome? (·.image? c.toNat) with
    | some code => [Char.ofNat code]
    | none => [c]

/-- A character in upper case. -/
def upperChar (c : Char) : List Char :=
  mapCase upperSequences upperRuns c

/-- A character in lower case, wherever it stands. -/
def lowerChar (c : Char) : List Char :=
  mapCase lowerSequences lowerRuns c

/-- A text in upper case. -/
def upper (s : String) : String :=
  String.ofList (s.toList.flatMap upperChar)

/-- Whether the first of `cs` that does not count as part of any word is a cased letter. -/
def meetsCased (cs : List Char) : Bool :=
  match cs.dropWhile caseIgnorableRanges.has with
  | [] => false
  | c :: _ => casedRanges.has c

/-- Whether a letter ends a word, given the characters before it, last first, and those after it. -/
def endsWord (before after : List Char) : Bool :=
  meetsCased before && !meetsCased after

/-- The characters in lower case, given those before them, last first. -/
def lowerFrom (before : List Char) : List Char → List Char
  | [] => []
  | c :: after =>
    let image := if c = 'Σ' then [if endsWord before after then 'ς' else 'σ'] else lowerChar c
    image ++ lowerFrom (c :: before) after

/-- A text in lower case. -/
def lower (s : String) : String :=
  String.ofList (lowerFrom [] s.toList)

end RecordQuery.Text
