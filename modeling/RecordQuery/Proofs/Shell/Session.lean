import Mathlib.Data.List.DropRight
import RecordQuery.Proofs.Fields
import RecordQuery.Proofs.Json.Source
import RecordQuery.Proofs.Shell.Lines

/-!
# What a session remembers

A session holds what its lines have brought (`Shell.Remembers`, `Shell.Account.remembers`): the records
of the last load, under each name its last value, and the sort keys since they were last dropped. Nothing
else of the lines is left, so those whose changes still show (`Effect.lasting`) give the same session on
their own (`Shell.after_shown`).
-/

namespace RecordQuery

namespace Effect

/-! ## What changes leave -/

def loaded? : Effect → Option (List Document)
  | load records => some records
  | _ => none

def boundTo? (name : String) : Effect → Option Value
  | bind n v => if name = n then some v else none
  | _ => none

def sortKey? : Effect → Option (String × Bool)
  | sort key => some key
  | _ => none

def keepsSorts : Effect → Bool
  | clearSort => false
  | _ => true

/-- What the last of the changes brought, among those that bring such a thing. -/
def last? {α : Type} (brings? : Effect → Option α) (changes : List Effect) : Option α :=
  changes.reverse.findSome? brings?

/-- The sort keys that were added after all were last dropped. -/
def sortKeys (changes : List Effect) : List (String × Bool) :=
  (changes.rtakeWhile keepsSorts).filterMap sortKey?

variable {α : Type} (brings? : Effect → Option α) (changes later : List Effect) (e : Effect)

theorem last?_append :
    last? brings? (changes ++ later) = (last? brings? later).or (last? brings? changes) := by
  rw [last?, List.reverse_append, List.findSome?_append]
  rfl

theorem last?_singleton : last? brings? [e] = brings? e := by
  rw [last?, List.reverse_singleton, List.findSome?_singleton]

theorem last?_cons : last? brings? (e :: later) = (last? brings? later).or (brings? e) := by
  rw [← List.singleton_append, last?_append, last?_singleton]

theorem sortKeys_concat :
    sortKeys (changes ++ [e]) =
      if e.keepsSorts then sortKeys changes ++ e.sortKey?.toList else [] := by
  cases h : e.keepsSorts with
  | true =>
    rw [sortKeys, List.rtakeWhile_concat_pos _ _ _ h, List.filterMap_append]
    cases e <;> rfl
  | false =>
    rw [sortKeys, List.rtakeWhile_concat_neg _ _ _ (by simp [h])]
    rfl

theorem sortKeys_cons :
    sortKeys (e :: later) =
      (if later.all keepsSorts then e.sortKey?.toList else []) ++ sortKeys later := by
  induction later using List.reverseRecOn with
  | nil => cases e <;> rfl
  | append_singleton later last ih =>
    have hall : (later ++ [last]).all keepsSorts = (later.all keepsSorts && last.keepsSorts) := by
      rw [List.all_append, List.all_cons, List.all_nil, Bool.and_true]
    rw [← List.cons_append, sortKeys_concat, sortKeys_concat, ih, hall]
    cases last.keepsSorts with
    | true => rw [Bool.and_true, if_pos rfl, if_pos rfl, List.append_assoc]
    | false => rw [Bool.and_false]; rfl

/-! ## Changes that last -/

/-- Whether a change still shows after later ones. -/
def lasts (later : List Effect) : Effect → Bool
  | load _ => (last? loaded? later).isNone
  | bind name _ => (last? (boundTo? name) later).isNone
  | sort _ => later.all keepsSorts
  | clearSort => false

/-- The changes that still show in the end. -/
def lasting : List Effect → List Effect
  | [] => []
  | e :: later => if e.lasts later then e :: lasting later else lasting later

/-- If only the last to bring such a thing shows, it is there among those that last. -/
theorem last?_lasting {brings? : Effect → Option α}
    (h : ∀ {e later}, (brings? e).isSome → e.lasts later = (last? brings? later).isNone) :
    last? brings? (lasting changes) = last? brings? changes := by
  induction changes with
  | nil => rfl
  | cons e later ih =>
    rw [lasting, last?_cons]
    split
    · rw [last?_cons, ih]
    · rename_i hlasts
      rw [ih]
      cases hbrings : brings? e with
      | none => exact (Option.or_none ..).symm
      | some x =>
        rw [h (by rw [hbrings]; rfl)] at hlasts
        rw [Option.or_of_isSome (by simpa [← Option.isSome_iff_ne_none] using hlasts)]

theorem keepsSorts_lasting : (lasting changes).all keepsSorts = true := by
  induction changes with
  | nil => rfl
  | cons e later ih =>
    rw [lasting]
    split
    · cases e with
      | clearSort => contradiction
      | _ => exact ih
    · exact ih

theorem sortKeys_lasting : sortKeys (lasting changes) = sortKeys changes := by
  induction changes with
  | nil => rfl
  | cons e later ih =>
    rw [lasting, sortKeys_cons]
    cases e with
    | sort key =>
      rw [lasts]
      split
      · rw [sortKeys_cons, ih, keepsSorts_lasting]
        rfl
      · exact ih
    | _ =>
      rw [show Effect.sortKey? _ = none from rfl, Option.toList_none, ite_self, List.nil_append]
      split
      · rw [sortKeys_cons, show Effect.sortKey? _ = none from rfl, Option.toList_none, ite_self,
          List.nil_append, ih]
      · exact ih

end Effect

namespace Shell

open Effect

/-- The session has the manager `m`, and is otherwise what the changes have left. -/
structure Remembers (s : Shell) (m : Manager) (changes : List Effect) : Prop where
  manager : s.manager = m
  records : s.records = (last? loaded? changes).getD []
  bindings : s.bindings.Ordered ∧ ∀ name, s.bindings.get? name = last? (boundTo? name) changes
  sorts : s.sorts = sortKeys changes

variable {s s' : Shell} {m : Manager} {changes : List Effect}

theorem remembers_nothing (m : Manager) : ({ manager := m } : Shell).Remembers m [] :=
  ⟨rfl, rfl, ⟨.nil, fun _ => rfl⟩, rfl⟩

theorem Remembers.apply (h : s.Remembers m changes) (e : Effect) :
    (e.apply s).Remembers m (changes ++ [e]) := by
  obtain ⟨hmanager, hrecords, ⟨hordered, hbindings⟩, hsorts⟩ := h
  constructor
  case manager => cases e <;> exact hmanager
  case records =>
    rw [last?_append, last?_singleton]
    cases e with
    | load records => rfl
    | _ => exact hrecords
  case bindings =>
    simp only [last?_append, last?_singleton]
    cases e with
    | bind name v =>
      refine ⟨hordered.insert, fun n => ?_⟩
      rw [Effect.apply, Fields.get?_insert, hbindings, boundTo?]
      split <;> rfl
    | _ => exact ⟨hordered, hbindings⟩
  case sorts =>
    rw [sortKeys_concat, ← hsorts]
    cases e with
    | sort key => rfl
    | clearSort => rfl
    | _ => exact (List.append_nil _).symm

/-- Nothing else makes up a session. -/
theorem Remembers.ext (h : s.Remembers m changes) (h' : s'.Remembers m changes) : s = s' := by
  obtain ⟨manager, bindings, records, sorts⟩ := s
  obtain ⟨manager', bindings', records', sorts'⟩ := s'
  have hbindings : bindings = bindings' :=
    h.bindings.1.ext h'.bindings.1 fun name => (h.bindings.2 name).trans (h'.bindings.2 name).symm
  rw [Shell.mk.injEq]
  exact ⟨h.manager.trans h'.manager.symm, hbindings, h.records.trans h'.records.symm,
    h.sorts.trans h'.sorts.symm⟩

/-- A session remembers the changes that last as well as all of them. -/
theorem Remembers.of_lasting (h : s.Remembers m (lasting changes)) : s.Remembers m changes := by
  obtain ⟨hmanager, hrecords, ⟨hordered, hbindings⟩, hsorts⟩ := h
  constructor
  case manager => exact hmanager
  case records =>
    rw [last?_lasting] at hrecords
    · exact hrecords
    · intro e _ he
      cases e with
      | load => rfl
      | _ => cases he
  case bindings =>
    refine ⟨hordered, fun name => ?_⟩
    rw [hbindings, last?_lasting]
    intro e _ he
    cases e with
    | bind n =>
      rw [boundTo?] at he
      split at he
      · subst n
        rfl
      · cases he
    | _ => cases he
  case sorts => rw [hsorts, sortKeys_lasting]

/-! ## Whole sessions -/

theorem remembers_effects (m : Manager) (changes : List Effect) :
    (changes.foldl Effect.apply { manager := m }).Remembers m changes := by
  induction changes using List.reverseRecOn with
  | nil => exact remembers_nothing m
  | append_singleton changes e ih =>
    rw [List.foldl_append]
    exact ih.apply e

variable {files : String → Option String} {lines shown : List String}

theorem Account.remembers (h : Account files lines changes) (m : Manager) :
    (Shell.after { manager := m } files lines).Remembers m changes := by
  rw [after_eq, ← account_iff.mp h]
  exact remembers_effects m changes

/-- The changes that last come from some of the lines. -/
theorem Account.exists_shown (h : Account files lines changes) :
    ∃ shown : List String,
      shown.Sublist lines ∧ List.Forall₂ (Brings files) shown (lasting changes) := by
  induction h with
  | nil => exact ⟨[], .slnil, .nil⟩
  | @brings line lines e changes h hr ih =>
    obtain ⟨shown, hsub, hshown⟩ := ih
    rw [lasting]
    split
    · exact ⟨line :: shown, hsub.cons_cons line, .cons h hshown⟩
    · exact ⟨shown, hsub.cons line, hshown⟩
  | @nothing line lines changes h hr ih =>
    obtain ⟨shown, hsub, hshown⟩ := ih
    exact ⟨shown, hsub.cons line, hshown⟩

theorem account_of_forall₂ (h : List.Forall₂ (Brings files) shown changes) :
    Account files shown changes := by
  induction h with
  | nil => exact .nil
  | cons h hr ih => exact .brings h ih

/-- The lines whose changes last give the same session on their own. -/
theorem after_shown (h : Account files lines changes)
    (hs : List.Forall₂ (Brings files) shown (lasting changes)) (m : Manager) :
    Shell.after { manager := m } files lines = Shell.after { manager := m } files shown :=
  (h.remembers m).ext ((account_of_forall₂ hs).remembers m).of_lasting

/-- A session holds what its lines have brought, and nothing else of them: every line does what it would
do after only those lines whose changes still show. Each line changes the session by what it brings; a
line that is refused has changed and printed nothing. -/
theorem session_remembers (files : String → Option String) (m : Manager) (lines : List String) :
    (∃ changes : List Effect,
      (∀ other : List Effect, Account files lines other ↔ other = changes) ∧
      (Shell.after { manager := m } files lines).Remembers m changes ∧
      ∃ shown : List String, shown.Sublist lines ∧
        List.Forall₂ (Brings files) shown (lasting changes) ∧
        ∀ line : String,
          (Shell.after { manager := m } files lines).turn files line =
            (Shell.after { manager := m } files shown).turn files line) ∧
      ∀ (s : Shell) (line : String),
        s.Ends files line (s.turn files line) ∧
        (∀ reply : Reply, s.handle files line = .ok reply ↔
          s.turn files line = .ok reply.quit ⟨reply.shell, reply.printed⟩) ∧
        ∀ e : ShellError, s.handle files line = .error e ↔ s.turn files line = .error e ⟨s, []⟩ := by
  constructor
  · have haccount : Account files lines (effects files lines) := account_iff.mpr rfl
    obtain ⟨shown, hsub, hshown⟩ := haccount.exists_shown
    refine ⟨effects files lines, fun _ => account_iff, haccount.remembers m, shown, hsub, hshown, ?_⟩
    intro line
    rw [after_shown haccount hshown]
  · exact fun s line => ⟨s.ends files line, fun _ => s.handle_eq_ok_iff files,
      fun _ => s.handle_eq_error_iff files⟩

/-! ## A session over two people -/

def people : List Document :=
  [⟨[("Age", .int 18), ("Name", .string "Ann")]⟩, ⟨[("Age", .int 30)]⟩]

def peopleText : String :=
  "[\x7b\"Name\": \"Ann\", \"Age\": 18\x7d, \x7b\"Age\": 30\x7d]"

def peopleFiles (path : String) : Option String :=
  if path = "people.json" then some peopleText else none

/-- The changes of three of these lines last. -/
def peopleLines : List String :=
  [":load people.json", ":sort Name", ":bind n 17", ":sort", ":bind n  18", ":load nobody.json", ":bind m",
    "x => x.Age > n", ":sort\tAge  DESC now", ":loads people.json", ":help"]

def peopleSession : Shell :=
  Shell.after { manager := {} } peopleFiles peopleLines

section

open Json.Source

theorem parse?_peopleText : Json.parse? peopleText = some (.array
    [.object [("Name", .string "Ann"), ("Age", .whole 18)], .object [("Age", .whole 30)]]) := by
  unfold peopleText
  apply Json.parse?_of_takes
  · simp only [String.reduceToList]
    apply takes_array (by decide)
    apply takes_item
    · apply takes_object (by decide)
      apply takes_member
      · exact takes_memberName rfl rfl
      · exact takes_string rfl
      · rfl
      · apply takes_lastMember
        · exact takes_memberName rfl rfl
        · exact takes_number (by decide) rfl
        · rfl
    · rfl
    · apply takes_lastItem
      · apply takes_object (by decide)
        apply takes_lastMember
        · exact takes_memberName rfl rfl
        · exact takes_number (by decide) rfl
        · rfl
      · rfl
  · rfl
  · rfl

end

theorem account_people : Account peopleFiles peopleLines
    [.load people, .sort ("Name", false), .bind "n" (.int 17), .clearSort, .bind "n" (.int 18),
      .sort ("Age", true)] := by
  have hload : Brings peopleFiles ":load people.json" (.load people) :=
    .load (Command.ofLine_eq_load.mp rfl) rfl parse?_peopleText (.cons rfl (.cons rfl .nil))
  have h17 : Denotes "17" (.int 17) :=
    .json (Json.parse?_numeral rfl (by decide) rfl rfl rfl : Json.parse? "17" = some (.whole 17))
  have h18 : Denotes "18" (.int 18) :=
    .json (Json.parse?_numeral rfl (by decide) rfl rfl rfl : Json.parse? "18" = some (.whole 18))
  have hbind {line input : String} {rest raw : String} {v : Value}
      (hc : Command.ofLine line = .bind input) (hs : Text.splitAtBlank? input = some ("n", rest))
      (ht : Text.trim rest = raw) (hv : Denotes raw v) : Brings peopleFiles line (.bind "n" v) :=
    .bind (Command.ofLine_eq_bind.mp hc) (Text.splitAtBlank?_eq_some.mp hs) (Text.trim_eq_iff.mp ht) hv
  have hsort {line input : String} {ws : List (List Char)} {e : Effect}
      (hc : Command.ofLine line = .sort input) (hw : Text.wordsFrom [] input.toList = ws)
      (hs : SortsBy ws e) : Brings peopleFiles line e :=
    .sort (Command.ofLine_eq_sort.mp hc) (Text.wordsFrom_eq_iff.mp hw) hs
  exact .brings hload <| .brings (hsort rfl rfl (.ascending nofun)) <|
    .brings (hbind rfl rfl rfl h17) <| .brings (hsort rfl rfl .nothing) <|
    .brings (hbind rfl rfl rfl h18) <| .nothing (not_brings_iff.mpr rfl) <|
    .nothing (not_brings_iff.mpr rfl) <| .nothing (not_brings_iff.mpr rfl) <|
    .brings (hsort rfl rfl (.descending rfl)) <| .nothing (not_brings_iff.mpr rfl) <|
    .nothing (not_brings_iff.mpr rfl) .nil

theorem parse_people : Lambda.parse "x => x.Age > n" [("n", .int 18)] =
    .ok ⟨"x", .binary .greaterThan (.member (.parameter "x") "Age") (.constant (.int 18))⟩ := by
  have htokens : Lexer.tokens "x => x.Age > n" =
      [⟨.identifier "x", ⟨0, 1⟩⟩, ⟨.arrow, ⟨2, 4⟩⟩, ⟨.identifier "x", ⟨5, 6⟩⟩, ⟨.dot, ⟨6, 7⟩⟩,
        ⟨.identifier "Age", ⟨7, 10⟩⟩, ⟨.greater, ⟨11, 12⟩⟩, ⟨.identifier "n", ⟨13, 14⟩⟩] := by
    with_unfolding_all rfl
  rw [Lambda.parse, htokens]
  cbv

theorem session_remembers_people :
    Account peopleFiles peopleLines [.load people, .sort ("Name", false), .bind "n" (.int 17), .clearSort,
        .bind "n" (.int 18), .sort ("Age", true)] ∧
      peopleSession =
        { manager := {}, bindings := [("n", .int 18)], records := people, sorts := [("Age", true)] } ∧
      (∃ json : String, peopleSession.turn peopleFiles "x => x.Age > n" =
        .ok false ⟨peopleSession, ["[条件]: Age > 18", json, "[匹配 1/2]:", "  \x7bAge: 30\x7d"]⟩) ∧
      peopleSession.handle peopleFiles ":bind m" = .error .bindUsage ∧
      ∃ shown : List String, shown.Sublist peopleLines ∧ shown.length = 3 ∧
        ∀ line : String, peopleSession.turn peopleFiles line =
          (Shell.after { manager := {} } peopleFiles shown).turn peopleFiles line := by
  obtain ⟨⟨changes, haccount, hremembers, shown, hsub, hshown, hturn⟩, hlines⟩ :=
    session_remembers peopleFiles {} peopleLines
  obtain rfl := (haccount _).mp account_people
  have hsession : peopleSession =
      { manager := {}, bindings := [("n", .int 18)], records := people, sorts := [("Age", true)] } := by
    refine hremembers.ext ⟨rfl, rfl, ⟨List.pairwise_singleton _ _, fun name => ?_⟩, rfl⟩
    by_cases hname : name = "n"
    · subst hname
      rfl
    · simp [last?, List.findSome?, boundTo?, Fields.get?, hname]
  have hrefused : peopleSession.handle peopleFiles ":bind m" = .error .bindUsage :=
    ((hlines _ _).2.2 _).mpr rfl
  refine ⟨account_people, hsession, ?_, hrefused, shown, hsub, hshown.length_eq, hturn⟩
  have hquery : (peopleSession.queryOf "x => x.Age > n").toOption.map
      (fun q => (q.text, (q.filter Document.record people).map Document.text)) =
        some ("Age > 18", ["\x7bAge: 30\x7d"]) := by
    rw [hsession, queryOf, parse_people]
    decide +kernel
  cases hrun : peopleSession.queryOf "x => x.Age > n" with
  | error e =>
    rw [hrun] at hquery
    cases hquery
  | ok q =>
    rw [hrun] at hquery
    obtain ⟨htext, hkept⟩ := Prod.mk.inj (Option.some.inj hquery)
    obtain ⟨d, hd, hdtext⟩ := List.map_eq_singleton_iff.mp hkept
    have hmatches : peopleSession.matchesOf q = [d] := by
      rw [matchesOf, hsession, hd]
      exact List.mergeSort_singleton d
    have hfound : peopleSession.found q = ["[匹配 1/2]:", "  \x7bAge: 30\x7d"] := by
      rw [found, hmatches, hsession, List.length_singleton, List.map_singleton, hdtext]
      decide +kernel
    have hanswer := turn_lambda _ peopleFiles (by rfl) hrun
    rw [Shell.shown, htext, hfound] at hanswer
    exact ⟨_, hanswer⟩

end Shell

end RecordQuery
