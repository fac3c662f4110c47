import RecordQuery.Proofs.Shell.Turn
import RecordQuery.Proofs.Text.Blank
import RecordQuery.Proofs.Value.Json

/-!
# What a line of text brings

A line is a command for what it looks like: a colon, a name and, behind a blank, an input (`Asks`). What
it brings to a session is read off its text and the files (`Brings`), and `brings_iff` says that the
shell finds just this. So a line ends in one of three ways (`Ends`, `ends`), and the lines of a session
bring one list of changes (`account_iff`).
-/

namespace RecordQuery

variable {name line input : String}

/-- The line is a colon, the name and, behind a blank, the input with blanks around it. -/
inductive Asks (name line : String) : String → Prop
  | alone (h : line.toList = ':' :: name.toList) : Asks name line ""
  | input {b : Char} {rest : List Char} {input : String} (hb : Text.isBlank b = true)
      (hi : Text.Trims rest input.toList) (h : line.toList = ':' :: (name.toList ++ b :: rest)) :
      Asks name line input

/-- The line asks for one of the names, with some input. -/
def AsksOne (names : List String) (line : String) : Prop :=
  ∃ name ∈ names, ∃ input, Asks name line input

/-- The text is JSON and stands for its value, or it is no JSON and stands for itself. -/
inductive Denotes (text : String) : Value → Prop
  | json {j : Json} (h : Json.parse? text = some j) : Denotes text (.ofJson j)
  | plain (h : Json.parse? text = none) : Denotes text (.string text)

/-- No words drop the sort order. Otherwise the first word is a field to sort by, in descending order if
the second word is `desc` in whichever case. -/
inductive SortsBy : List (List Char) → Effect → Prop
  | nothing : SortsBy [] .clearSort
  | ascending {field : List Char} {more : List (List Char)}
      (h : ∀ direction, more.head? = some direction → direction.map Char.toLower ≠ "desc".toList) :
      SortsBy (field :: more) (.sort (String.ofList field, false))
  | descending {field direction : List Char} {more : List (List Char)}
      (h : direction.map Char.toLower = "desc".toList) :
      SortsBy (field :: direction :: more) (.sort (String.ofList field, true))

/-- What a line brings to a session, given the files by path: the records of a file that holds an array
of JSON objects, a value under a name, or another sort order. -/
inductive Brings (files : String → Option String) (line : String) : Effect → Prop
  | load {path text : String} {items : List Json} {records : List Document} (h : Asks "load" line path)
      (hf : files path = some text) (hj : Json.parse? text = some (.array items))
      (hr : List.Forall₂ (fun j d => d.value = Value.ofJson j) items records) :
      Brings files line (.load records)
  | bind {input name raw : String} {rest : List Char} {v : Value} (h : Asks "bind" line input)
      (hs : Text.Splits input.toList name.toList rest) (hr : Text.Trims rest raw.toList)
      (hv : Denotes raw v) : Brings files line (.bind name v)
  | sort {input : String} {ws : List (List Char)} {e : Effect} (h : Asks "sort" line input)
      (hw : Text.Words input.toList ws) (hs : SortsBy ws e) : Brings files line e

/-! ## Names and inputs -/

namespace Command

theorem parts?_eq_some :
    parts? line = some (name, input) ↔ Text.Solid name.toList ∧ Asks name line input := by
  constructor
  · intro h
    unfold parts? at h
    split at h
    · rename_i rest hline
      cases hsplit : Text.splitAtBlank? (String.ofList rest) with
      | none =>
        rw [hsplit] at h
        obtain ⟨rfl, rfl⟩ := Prod.mk.inj (Option.some.inj h)
        exact ⟨Text.splitAtBlank?_eq_none.mp hsplit, .alone (by rw [String.toList_ofList, hline])⟩
      | some p =>
        rw [hsplit] at h
        obtain ⟨rfl, rfl⟩ := Prod.mk.inj (Option.some.inj h)
        obtain ⟨hsolid, b, hb, hrest⟩ := Text.splitAtBlank?_eq_some.mp hsplit
        rw [String.toList_ofList] at hrest
        exact ⟨hsolid, .input hb (Text.trim_eq_iff.mp rfl) (by rw [hline, hrest])⟩
    · cases h
  · rintro ⟨hsolid, h⟩
    unfold parts?
    cases h with
    | alone h =>
      have hsplit : Text.splitAtBlank? name = none := Text.splitAtBlank?_eq_none.mpr hsolid
      simp only [h, String.ofList_toList, hsplit]
      rfl
    | @input b rest input hb hi h =>
      have hsplit : Text.splitAtBlank? (String.ofList (name.toList ++ b :: rest)) =
          some (name, String.ofList rest) := by
        rw [Text.splitAtBlank?_eq_some, String.toList_ofList, String.toList_ofList]
        exact ⟨hsolid, b, hb, rfl⟩
      have htrim : Text.trim (String.ofList rest) = input := by
        rw [Text.trim_eq_iff, String.toList_ofList]
        exact hi
      simp only [h, hsplit, Option.getD_some, htrim]

theorem parts?_eq_none : parts? line = none ↔ line.toList.head? ≠ some ':' := by
  unfold parts?
  split
  · rename_i h
    simp [h]
  · rename_i h
    refine ⟨fun _ hcolon => ?_, fun _ => rfl⟩
    obtain ⟨rest, hrest⟩ := List.head?_eq_some_iff.mp hcolon
    exact h rest hrest

theorem asks_iff (hn : Text.Solid name.toList) :
    Asks name line input ↔ parts? line = some (name, input) := by
  rw [parts?_eq_some, and_iff_right hn]

/-- The commands that are there for their effects, by their names. -/
def wanting : List (String × (String → Command)) :=
  [("load", load), ("bind", bind), ("sort", sort)]

theorem named_eq_iff {n text : String} {c : String → Command} (h : (n, c) ∈ wanting) :
    named name input = c text ↔ name = n ∧ input = text := by
  simp only [wanting, List.mem_cons, Prod.mk.injEq, List.not_mem_nil, or_false] at h
  obtain ⟨rfl, rfl⟩ | ⟨rfl, rfl⟩ | ⟨rfl, rfl⟩ := h <;> (unfold named; grind)

theorem ofLine_eq_iff {n text : String} {c : String → Command} (h : (n, c) ∈ wanting) :
    ofLine line = c text ↔ Asks n line text := by
  have hsolid : ∀ p ∈ wanting, Text.Solid p.1.toList := by decide
  have hlambda : ∀ p ∈ wanting, lambda line ≠ p.2 text := by
    simp [wanting]
  rw [asks_iff (hsolid _ h), ofLine]
  cases parts? line with
  | none => exact ⟨fun hc => absurd hc (hlambda _ h), nofun⟩
  | some p =>
    rw [Option.some.injEq, Prod.ext_iff]
    exact named_eq_iff h

theorem ofLine_eq_load {path : String} : ofLine line = .load path ↔ Asks "load" line path :=
  ofLine_eq_iff (by simp [wanting])

theorem ofLine_eq_bind : ofLine line = .bind input ↔ Asks "bind" line input :=
  ofLine_eq_iff (by simp [wanting])

theorem ofLine_eq_sort : ofLine line = .sort input ↔ Asks "sort" line input :=
  ofLine_eq_iff (by simp [wanting])

theorem asksOne_iff {names : List String} {p : Command → Prop}
    (hsolid : ∀ n ∈ names, Text.Solid n.toList)
    (hnamed : ∀ name input, p (named name input) ↔ name ∈ names) (hlambda : ¬p (lambda line)) :
    AsksOne names line ↔ p (ofLine line) := by
  have hasks : AsksOne names line ↔ ∃ name ∈ names, ∃ input, parts? line = some (name, input) :=
    exists_congr fun name => and_congr_right fun hn =>
      exists_congr fun input => asks_iff (hsolid name hn)
  rw [hasks, ofLine]
  cases parts? line with
  | none => simp [hlambda]
  | some q => simp [hnamed, Prod.ext_iff]

theorem asksOne_wanting_iff :
    AsksOne ["load", "bind", "sort"] line ↔ (ofLine line).wantsEffect = true := by
  refine asksOne_iff (p := fun c => c.wantsEffect = true) (by decide)
    (fun name input => ?_) Bool.false_ne_true
  unfold named
  grind [wantsEffect]

theorem asksOne_quit_iff : AsksOne ["quit", "q"] line ↔ ofLine line = .quit := by
  refine asksOne_iff (p := fun c => c = .quit) (by decide) (fun name input => ?_) nofun
  unfold named
  grind

theorem isLambda_ofLine : (ofLine line).isLambda = true ↔ line.toList.head? ≠ some ':' := by
  rw [← parts?_eq_none, ofLine]
  cases parts? line with
  | none => exact ⟨fun _ => rfl, fun _ => rfl⟩
  | some p =>
    have hnamed : (named p.1 p.2).isLambda = false := by
      unfold named
      grind [isLambda]
    simp [hnamed]

end Command

/-! ## What is brought -/

/-- A document is an object as a value. -/
theorem Document.ofJson?_eq_some {j : Json} {d : Document} :
    Document.ofJson? j = some d ↔ d.value = Value.ofJson j := by
  obtain ⟨fields⟩ := d
  cases j with
  | object members =>
    rw [Document.ofJson?, Option.some.injEq, Document.ofPairs, Document.mk.injEq, Document.value,
      Value.ofJson, Value.map.injEq, Value.decodeMembers_eq, eq_comm]
  | whole n =>
    have hwhole : Value.map fields ≠ Value.ofWhole n := by
      unfold Value.ofWhole
      split <;> (intro h; cases h)
    refine iff_of_false (fun h => ?_) hwhole
    cases h
  | _ => refine iff_of_false (fun h => ?_) (fun h => ?_) <;> cases h

theorem mapM_eq_some_iff {α β : Type} {f : α → Option β} {xs : List α} {ys : List β} :
    xs.mapM f = some ys ↔ List.Forall₂ (fun x y => f x = some y) xs ys := by
  induction xs generalizing ys with
  | nil => simp [eq_comm]
  | cons x xs ih =>
    rw [List.mapM_cons]
    constructor
    · intro h
      obtain ⟨y, hy, h⟩ := Option.bind_eq_some_iff.mp h
      obtain ⟨rest, hrest, h⟩ := Option.bind_eq_some_iff.mp h
      cases h
      exact .cons hy (ih.mp hrest)
    · intro h
      cases h with
      | cons hy hrest =>
        rw [hy, Option.bind_eq_bind, Option.bind_some, ih.mpr hrest]
        rfl

namespace Shell

variable {files : String → Option String}

theorem recordsOf?_eq_some {text : String} {records : List Document} :
    recordsOf? text = some records ↔ ∃ items, Json.parse? text = some (.array items) ∧
      List.Forall₂ (fun j d => d.value = Value.ofJson j) items records := by
  have hitems (items : List Json) : items.mapM Document.ofJson? = some records ↔
      List.Forall₂ (fun j d => d.value = Value.ofJson j) items records := by
    simp only [mapM_eq_some_iff, Document.ofJson?_eq_some]
  unfold recordsOf?
  split
  · rename_i items h
    rw [hitems]
    constructor
    · exact fun hrecords => ⟨items, h, hrecords⟩
    · rintro ⟨items', h', hrecords⟩
      cases h.symm.trans h'
      exact hrecords
  · rename_i h
    exact ⟨nofun, fun ⟨items, h', _⟩ => absurd h' (h items)⟩

theorem valueOf_eq_iff {text : String} {v : Value} : valueOf text = v ↔ Denotes text v := by
  unfold valueOf
  cases hj : Json.parse? text with
  | none =>
    refine ⟨fun h => h ▸ .plain hj, fun h => ?_⟩
    cases h with
    | json h => cases hj.symm.trans h
    | plain => rfl
  | some j =>
    refine ⟨fun h => h ▸ .json hj, fun h => ?_⟩
    cases h with
    | json h =>
      cases hj.symm.trans h
      rfl
    | plain h => cases hj.symm.trans h

theorem sortsBy_iff {ws : List (List Char)} {e : Effect} (hw : Text.Words input.toList ws) :
    SortsBy ws e ↔ (Command.sort input).effect? files = some e := by
  -- the direction is compared as a text there
  have hdirection (direction : List Char) :
      ((String.ofList direction).map Char.toLower == "desc") = true ↔
        direction.map Char.toLower = "desc".toList := by
    rw [beq_iff_eq, ← String.toList_inj, String.toList_map, String.toList_ofList]
  rw [Command.effect?, sortKey?, Text.words, hw.wordsFrom_eq]
  constructor
  · intro h
    cases h with
    | nothing => rfl
    | @ascending field more h =>
      cases more with
      | nil => rfl
      | cons direction more =>
        have hkey := Bool.eq_false_iff.mpr (mt (hdirection direction).mp (h direction rfl))
        simp only [List.map_cons, hkey]
    | descending h => simp only [List.map_cons, (hdirection _).mpr h]
  · intro h
    rcases ws with _ | ⟨field, _ | ⟨direction, more⟩⟩
    · cases h
      exact .nothing
    · cases h
      refine .ascending fun direction h => ?_
      cases h
    · cases hkey : (String.ofList direction).map Char.toLower == "desc" with
      | true =>
        simp only [List.map_cons, hkey, Option.some.injEq] at h
        exact h ▸ .descending ((hdirection direction).mp hkey)
      | false =>
        simp only [List.map_cons, hkey, Option.some.injEq] at h
        refine h ▸ .ascending ?_
        rintro d ⟨⟩
        exact mt (hdirection direction).mpr (Bool.eq_false_iff.mp hkey)

/-- The shell finds what a line brings. -/
theorem brings_iff {e : Effect} : Brings files line e ↔ effectOf files line = some e := by
  unfold effectOf
  constructor
  · intro h
    cases h with
    | load hasks hfile hitems hrecords =>
      rw [Command.ofLine_eq_load.mpr hasks, Command.effect?, hfile, Option.bind_some,
        recordsOf?_eq_some.mpr ⟨_, hitems, hrecords⟩]
      rfl
    | @bind input name raw rest v hasks hsplit htrim hv =>
      have hname : Text.splitAtBlank? input = some (name, String.ofList rest) :=
        Text.splitAtBlank?_eq_some.mpr (by rw [String.toList_ofList]; exact hsplit)
      have hraw : Text.trim (String.ofList rest) = raw :=
        Text.trim_eq_iff.mpr (by rw [String.toList_ofList]; exact htrim)
      rw [Command.ofLine_eq_bind.mpr hasks, Command.effect?, hname, Option.map_some, hraw,
        valueOf_eq_iff.mpr hv]
    | sort hasks hwords hsorts =>
      rw [Command.ofLine_eq_sort.mpr hasks]
      exact (sortsBy_iff hwords).mp hsorts
  · intro h
    cases hc : Command.ofLine line with
    | load path =>
      rw [hc] at h
      obtain ⟨records, hrecords, rfl⟩ := Option.map_eq_some_iff.mp h
      obtain ⟨text, hfile, htext⟩ := Option.bind_eq_some_iff.mp hrecords
      obtain ⟨items, hitems, hdocuments⟩ := recordsOf?_eq_some.mp htext
      exact .load (Command.ofLine_eq_load.mp hc) hfile hitems hdocuments
    | bind input =>
      rw [hc] at h
      obtain ⟨p, hp, rfl⟩ := Option.map_eq_some_iff.mp h
      exact .bind (Command.ofLine_eq_bind.mp hc) (Text.splitAtBlank?_eq_some.mp hp)
        (Text.trim_eq_iff.mp rfl) (valueOf_eq_iff.mp rfl)
    | sort input =>
      rw [hc] at h
      have hwords := Text.wordsFrom_eq_iff.mp (rfl : Text.wordsFrom [] input.toList = _)
      exact .sort (Command.ofLine_eq_sort.mp hc) hwords ((sortsBy_iff hwords).mpr h)
    | _ =>
      rw [hc] at h
      cases h

theorem not_brings_iff : (∀ e, ¬Brings files line e) ↔ effectOf files line = none := by
  simp only [brings_iff, Option.eq_none_iff_forall_ne_some, ne_eq]

/-! ## Lines that end -/

/-- What may come of a line. It changes the session by what it brings; or it brings nothing, and
succeeds unless it is there to bring something; or it brings nothing and fails, before it has printed
anything. -/
inductive Ends (s : Shell) (files : String → Option String) (line : String) :
    EStateM.Result ShellError Turn Bool → Prop
  | done {e : Effect} (h : Brings files line e) (printed : List String) :
      Ends s files line (.ok false ⟨e.apply s, printed⟩)
  | idle (h : ∀ e, ¬Brings files line e) (hw : ¬AsksOne ["load", "bind", "sort"] line) {quit : Bool}
      (hq : quit = true ↔ AsksOne ["quit", "q"] line) (printed : List String) :
      Ends s files line (.ok quit ⟨s, printed⟩)
  | failed (h : ∀ e, ¬Brings files line e)
      (hw : AsksOne ["load", "bind", "sort"] line ∨ line.toList.head? ≠ some ':') (e : ShellError) :
      Ends s files line (.error e ⟨s, []⟩)

theorem ends (s : Shell) (files : String → Option String) (line : String) :
    s.Ends files line (s.turn files line) := by
  have hturns := s.turns files line
  generalize s.turn files line = r at hturns
  cases hturns with
  | done he printed => exact .done (brings_iff.mpr he) printed
  | idle he hw hq printed =>
    refine .idle (not_brings_iff.mpr he) ?_ (hq.trans Command.asksOne_quit_iff.symm) printed
    rw [Command.asksOne_wanting_iff, hw]
    exact Bool.false_ne_true
  | failed he hw e =>
    refine .failed (not_brings_iff.mpr he) ?_ e
    exact hw.imp Command.asksOne_wanting_iff.mpr Command.isLambda_ofLine.mp

/-! ## Lines of a session -/

/-- What lines bring, one after the other. -/
inductive Account (files : String → Option String) : List String → List Effect → Prop
  | nil : Account files [] []
  | brings {line : String} {lines : List String} {e : Effect} {changes : List Effect}
      (h : Brings files line e) (hr : Account files lines changes) :
      Account files (line :: lines) (e :: changes)
  | nothing {line : String} {lines : List String} {changes : List Effect}
      (h : ∀ e, ¬Brings files line e) (hr : Account files lines changes) :
      Account files (line :: lines) changes

theorem account_iff {lines : List String} {changes : List Effect} :
    Account files lines changes ↔ changes = effects files lines := by
  constructor
  · intro h
    induction h with
    | nil => rfl
    | brings h hr ih =>
      rw [ih, effects, effects, List.filterMap_cons_some (brings_iff.mp h)]
    | @nothing line lines changes h hr ih =>
      rw [ih, effects, effects, List.filterMap_cons_none (not_brings_iff.mp h)]
  · rintro rfl
    induction lines with
    | nil => exact .nil
    | cons line lines ih =>
      cases heffect : effectOf files line with
      | none =>
        rw [effects, List.filterMap_cons_none heffect]
        exact .nothing (not_brings_iff.mpr heffect) ih
      | some e =>
        rw [effects, List.filterMap_cons_some heffect]
        exact .brings (brings_iff.mpr heffect) ih

end Shell

end RecordQuery
