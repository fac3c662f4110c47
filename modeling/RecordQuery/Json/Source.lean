import RecordQuery.Reading

/-!
# JSON text taken apart

`Source` is the shape of a JSON text, with its numbers and strings still as they are written.
`Source.read?` accepts exactly the texts that follow the grammar of JSON, to any depth. What the
numbers and strings stand for is the business of `Json.Reader`.
-/

namespace RecordQuery.Json

/-- A number as written: its sign, its digits before and after the point, and its exponent with the
sign of that. -/
structure Numeral where
  negative : Bool
  whole : List Char
  fraction : List Char
  exponent : Option (Bool × List Char)

/-- A JSON text as written. Strings and names hold the characters between the quotes, with their
escapes. -/
inductive Source where
  | null
  | bool (b : Bool)
  | number (n : Numeral)
  | string (body : List Char)
  | array (items : List Source)
  | object (members : List (List Char × Source))

namespace Source

/-- A character that may stand between the parts of a JSON text. -/
def isSpace (c : Char) : Bool :=
  c = ' ' || c = '\t' || c = '\n' || c = '\r'

/-- A digit. -/
def isDigit (c : Char) : Bool :=
  '0' ≤ c && c ≤ '9'

/-- A hexadecimal digit of either case. -/
def isHexDigit (c : Char) : Bool :=
  isDigit c || ('a' ≤ c && c ≤ 'f') || ('A' ≤ c && c ≤ 'F')

/-- The text after any space in front. -/
def skipSpace (cs : List Char) : List Char :=
  cs.dropWhile isSpace

theorem length_skipSpace_le (cs : List Char) : (skipSpace cs).length ≤ cs.length :=
  (List.dropWhile_suffix _).length_le

/-- Reads the rest of a string, up to its closing quote. -/
def stringBody? : List Char → Option (List Char × List Char)
  | [] => none
  | '"' :: rest => some ([], rest)
  | '\\' :: 'u' :: a :: b :: c :: d :: rest =>
    if [a, b, c, d].all isHexDigit then
      (stringBody? rest).map fun (body, rest) => ('\\' :: 'u' :: a :: b :: c :: d :: body, rest)
    else none
  | '\\' :: c :: rest =>
    if c ∈ ['"', '\\', '/', 'b', 'f', 'n', 'r', 't'] then
      (stringBody? rest).map fun (body, rest) => ('\\' :: c :: body, rest)
    else none
  | c :: rest =>
    if c = '\\' ∨ c.toNat < 32 then none
    else (stringBody? rest).map fun (body, rest) => (c :: body, rest)

theorem length_lt_of_stringBody? {cs body rest : List Char}
    (h : stringBody? cs = some (body, rest)) : rest.length < cs.length := by
  fun_induction stringBody? cs generalizing body <;>
    simp only [Option.map_eq_some_iff, Option.some.injEq, Prod.mk.injEq, reduceCtorEq] at h
  case case2 => obtain ⟨_, rfl⟩ := h; simp
  all_goals
    obtain ⟨⟨b, r⟩, hr, _, rfl⟩ := h
    rename_i ih
    have := ih hr
    simp only [List.length_cons]
    exact Nat.lt_of_lt_of_le this (by omega)

/-- The digits of the whole part of a number, which begins with zero only if it is zero. -/
def wholeDigits? (cs : List Char) : Option (List Char × List Char) :=
  match cs with
  | [] => none
  | '0' :: rest =>
    match rest with
    | d :: _ => if isDigit d then none else some (['0'], rest)
    | [] => some (['0'], [])
  | c :: rest =>
    if isDigit c then some (c :: rest.takeWhile isDigit, rest.dropWhile isDigit) else none

/-- A row of digits with at least one. -/
def digits? (cs : List Char) : Option (List Char × List Char) :=
  match cs.takeWhile isDigit with
  | [] => none
  | ds => some (ds, cs.dropWhile isDigit)

/-- The digits after the point of a number, if it has a point. -/
def fraction? : List Char → Option (List Char × List Char)
  | '.' :: rest => digits? rest
  | cs => some ([], cs)

/-- The exponent of a number, if it has one. -/
def exponent? : List Char → Option (Option (Bool × List Char) × List Char)
  | 'e' :: rest | 'E' :: rest =>
    match rest with
    | '+' :: rest => (digits? rest).map fun (ds, rest) => (some (false, ds), rest)
    | '-' :: rest => (digits? rest).map fun (ds, rest) => (some (true, ds), rest)
    | rest => (digits? rest).map fun (ds, rest) => (some (false, ds), rest)
  | cs => some (none, cs)

/-- A number without its sign. -/
def unsigned? (negative : Bool) (cs : List Char) : Option Numeral := do
  let (before, cs) ← wholeDigits? cs
  let (after, cs) ← fraction? cs
  match ← exponent? cs with
  | (exponent, []) => some ⟨negative, before, after, exponent⟩
  | _ => none

/-- A number. -/
def numeral? : List Char → Option Numeral
  | '-' :: rest => unsigned? true rest
  | cs => unsigned? false cs

/-- A character that numbers are made of. Every other character ends a number. -/
def inNumeral (c : Char) : Bool :=
  isDigit c || c = '+' || c = '-' || c = '.' || c = 'e' || c = 'E'

theorem length_dropWhile_lt (p : Char → Bool) (c : Char) (cs : List Char) :
    (cs.dropWhile p).length < (c :: cs).length :=
  Nat.lt_succ_of_le (List.dropWhile_suffix p).length_le

/-- Reads a word that stands for a value. -/
def keyword? (word : List Char) (meaning : Source) (c : Char) (cs : List Char) :
    Option (Reading Source (c :: cs)) :=
  if word.isPrefixOf cs then
    some ⟨meaning, cs.drop word.length, by simp only [List.length_drop, List.length_cons]; omega⟩
  else none

/-- Reads a string whose opening quote was `c`. -/
def string? (c : Char) (cs : List Char) : Option (Reading (List Char) (c :: cs)) :=
  match h : stringBody? cs with
  | some (body, rest) => some ⟨body, rest, Nat.lt_succ_of_lt (length_lt_of_stringBody? h)⟩
  | none => none

/-- Reads the name of a member and the colon after it. -/
def memberName? (source : List Char) : Option (Reading (List Char) source) :=
  match source with
  | '"' :: cs =>
    match string? '"' cs with
    | none => none
    | some name =>
      match h : skipSpace name.rest with
      | ':' :: rest => some ⟨name.value, skipSpace rest, by
          have := length_skipSpace_le name.rest; have := length_skipSpace_le rest
          have := name.shorter; simp_all; omega⟩
      | _ => none
  | _ => none

mutual

/-- Reads a value with no space before it. -/
def value? (source : List Char) : Option (Reading Source source) :=
  match source with
  | [] => none
  | c :: cs =>
    if c = '"' then (string? c cs).map (·.map .string)
    else if c = '[' then
      match h : skipSpace cs with
      | ']' :: rest => some ⟨.array [], rest, by
          have := length_skipSpace_le cs; simp only [h, List.length_cons] at *; omega⟩
      | rest => (items? rest).map fun r =>
          (r.map .array).within (by
            have := length_skipSpace_le cs; simp only [h, List.length_cons] at *; omega)
    else if c = '\x7b' then
      match h : skipSpace cs with
      | '\x7d' :: rest => some ⟨.object [], rest, by
          have := length_skipSpace_le cs; simp only [h, List.length_cons] at *; omega⟩
      | rest => (members? rest).map fun r =>
          (r.map .object).within (by
            have := length_skipSpace_le cs; simp only [h, List.length_cons] at *; omega)
    else if c = 'n' then keyword? ['u', 'l', 'l'] .null c cs
    else if c = 't' then keyword? ['r', 'u', 'e'] (.bool true) c cs
    else if c = 'f' then keyword? ['a', 'l', 's', 'e'] (.bool false) c cs
    else
      (numeral? (c :: cs.takeWhile inNumeral)).map fun n =>
        ⟨.number n, cs.dropWhile inNumeral, length_dropWhile_lt ..⟩
  termination_by (source.length, 0)
  decreasing_by
    all_goals
      have := length_skipSpace_le cs
      simp_all
      omega

/-- Reads the items of an array up to its closing bracket. -/
def items? (source : List Char) : Option (Reading (List Source) source) := do
  let first ← value? source
  match h : skipSpace first.rest with
  | ']' :: rest => some ⟨[first.value], rest, by
      have := length_skipSpace_le first.rest; have := first.shorter; simp_all; omega⟩
  | ',' :: rest =>
    let others ← items? (skipSpace rest)
    some ((others.map (first.value :: ·)).within (by
      have := length_skipSpace_le first.rest; have := length_skipSpace_le rest
      have := first.shorter; simp_all; omega))
  | _ => none
  termination_by (source.length, 1)
  decreasing_by
    · exact .right _ (by decide)
    · have := length_skipSpace_le first.rest; have := length_skipSpace_le rest
      have := first.shorter; simp_all; omega

/-- Reads the members of an object up to its closing brace. -/
def members? (source : List Char) : Option (Reading (List (List Char × Source)) source) := do
  let name ← memberName? source
  let first ← value? name.rest
  match h : skipSpace first.rest with
  | '\x7d' :: rest => some ⟨[(name.value, first.value)], rest, by
      have := length_skipSpace_le first.rest; have := first.shorter; have := name.shorter
      simp_all; omega⟩
  | ',' :: rest =>
    let others ← members? (skipSpace rest)
    some ((others.map ((name.value, first.value) :: ·)).within (by
      have := length_skipSpace_le first.rest; have := length_skipSpace_le rest
      have := first.shorter; have := name.shorter; simp_all; omega))
  | _ => none
  termination_by (source.length, 1)
  decreasing_by
    · exact .left _ _ name.shorter
    · have := length_skipSpace_le first.rest; have := length_skipSpace_le rest
      have := first.shorter; have := name.shorter; simp_all; omega

end

/-- A whole JSON text. -/
def read? (text : String) : Option Source := do
  let r ← value? (skipSpace text.toList)
  if (skipSpace r.rest).isEmpty then some r.value else none

end Source

end RecordQuery.Json
