import RecordQuery.Shell

/-!
# What a line does to a session

A command has at most one lasting effect (`Command.effect?`): it loads records, binds a name, adds a sort
key or drops all sort keys. `Shell.turns` says that a line which succeeds has just that effect, and that a
line which fails has no effect and has printed nothing. For this each command is run once
(`Shell.perform_turns`).
-/

namespace RecordQuery

/-- A lasting change of a session. -/
inductive Effect where
  | load (records : List Document)
  | bind (name : String) (v : Value)
  | sort (key : String × Bool)
  | clearSort

/-- The session after the change. -/
def Effect.apply (s : Shell) : Effect → Shell
  | load records => { s with records }
  | bind name v => { s with bindings := s.bindings.insert name v }
  | sort key => { s with sorts := s.sorts ++ [key] }
  | clearSort => { s with sorts := [] }

/-- The change that a command asks for, if what it is given makes sense. -/
def Command.effect? (files : String → Option String) : Command → Option Effect
  | load path => ((files path).bind Shell.recordsOf?).map .load
  | bind input =>
    (Text.splitAtBlank? input).map fun p => .bind p.1 (Shell.valueOf (Text.trim p.2))
  | sort input =>
    match Shell.sortKey? input with
    | none => some .clearSort
    | some key => some (.sort key)
  | _ => none

/-- Whether a command is there for its effect. -/
def Command.wantsEffect : Command → Bool
  | load _ | bind _ | sort _ => true
  | _ => false

def Command.isLambda : Command → Bool
  | lambda _ => true
  | _ => false

/-! ## Printing -/

namespace Console

theorem run_print (text : String) (t : Turn) :
    (print text).run t = .ok () { t with printed := t.printed ++ [text] } := rfl

/-- Texts are printed one after the other. -/
theorem run_forM_print {α : Type} (f : α → String) (xs : List α) (t : Turn) :
    (xs.forM fun x => print (f x)).run t =
      .ok () { t with printed := t.printed ++ xs.map f } := by
  induction xs generalizing t with
  | nil =>
    rw [List.map_nil, List.append_nil]
    rfl
  | cons x xs ih =>
    refine (ih { t with printed := t.printed ++ [f x] }).trans ?_
    rw [List.map_cons, List.append_assoc, List.singleton_append]

theorem run_forM_print_self (texts : List String) (t : Turn) :
    (texts.forM print).run t = .ok () { t with printed := t.printed ++ texts } := by
  have h := run_forM_print id texts t
  rw [List.map_id] at h
  exact h

end Console

namespace Shell

open Console

variable (s : Shell) (files : String → Option String)

/-! ## One command after the other -/

/-- What a session shows of the records that a query keeps, if it has any records. -/
def found (q : Query) : List String :=
  if s.records.isEmpty then []
  else
    let total :=
      Decimal.natText (s.matchesOf q).length ++ "/" ++ Decimal.natText s.records.length
    ("[匹配 " ++ total ++ "]:") :: (s.matchesOf q).map fun d => "  " ++ d.text

/-- A lambda line prints the query that it stands for and what is found, unless the lambda is faulty. -/
theorem run_run (text : String) :
    (run text).run { shell := s } =
      match s.queryOf text with
      | .error e => .error (.query e) { shell := s }
      | .ok q => .ok () { shell := s, printed := shown q ++ s.found q } := by
  unfold run
  simp only [EStateM.run_bind, EStateM.run_get]
  cases s.queryOf text with
  | error e => rfl
  | ok q =>
    simp only [EStateM.run_bind, run_forM_print_self, List.nil_append, found]
    cases s.records.isEmpty with
    | true =>
      simp only [↓reduceIte, List.append_nil]
      rfl
    | false =>
      simp only [Bool.false_eq_true, ↓reduceIte, EStateM.run_bind, run_print, run_forM_print,
        List.append_assoc, List.singleton_append]

theorem run_load (path : String) (content : Option String) :
    (load path content).run { shell := s } =
      match content with
      | none => .error (.unreadable path) { shell := s }
      | some text =>
        match recordsOf? text with
        | none => .error (.notRecords path) { shell := s }
        | some records =>
          .ok ()
            { shell := { s with records }
              printed := ["✓ 加载了 " ++ Decimal.natText records.length ++ " 条记录"] } := by
  unfold load
  cases content with
  | none => rfl
  | some text => cases hrecords : recordsOf? text <;> simp only [hrecords] <;> rfl

theorem run_bindName (input : String) :
    (bindName input).run { shell := s } =
      match Text.splitAtBlank? input with
      | none => .error .bindUsage { shell := s }
      | some (name, raw) =>
        .ok ()
          { shell := { s with bindings := s.bindings.insert name (valueOf (Text.trim raw)) }
            printed := ["✓ " ++ name ++ " = " ++ (valueOf (Text.trim raw)).text] } := by
  unfold bindName
  cases Text.splitAtBlank? input <;> rfl

theorem run_sortBy (input : String) :
    (sortBy input).run { shell := s } =
      match sortKey? input with
      | none => .ok () { shell := { s with sorts := [] }, printed := ["✓ 排序: " ++ sortsText []] }
      | some key =>
        .ok ()
          { shell := { s with sorts := s.sorts ++ [key] }
            printed := ["✓ 排序: " ++ sortsText (s.sorts ++ [key])] } := by
  unfold sortBy
  cases sortKey? input <;> rfl

/-- A command succeeds, with its effect if it has one, or it has none and fails before it does
anything. -/
inductive Turns (c : Command) : EStateM.Result ShellError Turn Bool → Prop
  | done {e : Effect} (he : c.effect? files = some e) (printed : List String) :
      Turns c (.ok false ⟨e.apply s, printed⟩)
  | idle (he : c.effect? files = none) (hw : c.wantsEffect = false) {quit : Bool}
      (hq : quit = true ↔ c = .quit) (printed : List String) : Turns c (.ok quit ⟨s, printed⟩)
  | failed (he : c.effect? files = none) (hw : c.wantsEffect = true ∨ c.isLambda = true)
      (e : ShellError) : Turns c (.error e ⟨s, []⟩)

theorem perform_turns (c : Command) :
    s.Turns files c ((perform files c).run { shell := s }) := by
  cases c with
  | lambda text =>
    simp only [perform, EStateM.run_bind, run_run]
    cases s.queryOf text with
    | error e => exact .failed rfl (.inr rfl) _
    | ok q => exact .idle rfl rfl (by simp) _
  | load path =>
    simp only [perform, EStateM.run_bind, run_load]
    cases hfile : files path with
    | none => exact .failed (by rw [Command.effect?, hfile]; rfl) (.inl rfl) _
    | some text =>
      cases hrecords : recordsOf? text with
      | none =>
        simp only [hrecords]
        have heffect : (Command.load path).effect? files = none := by
          simp only [Command.effect?, hfile, Option.bind_some, hrecords, Option.map_none]
        exact .failed heffect (.inl rfl) _
      | some records =>
        have heffect : (Command.load path).effect? files = some (.load records) := by
          simp only [Command.effect?, hfile, Option.bind_some, hrecords, Option.map_some]
        simp only [hrecords]
        exact .done heffect _
  | bind input =>
    simp only [perform, EStateM.run_bind, run_bindName]
    cases hsplit : Text.splitAtBlank? input with
    | none => exact .failed (by rw [Command.effect?, hsplit]; rfl) (.inl rfl) _
    | some p =>
      have heffect : (Command.bind input).effect? files =
          some (.bind p.1 (valueOf (Text.trim p.2))) := by
        rw [Command.effect?, hsplit]
        rfl
      exact .done heffect _
  | sort input =>
    simp only [perform, EStateM.run_bind, run_sortBy]
    cases hkey : sortKey? input with
    | none =>
      have heffect : (Command.sort input).effect? files = some .clearSort := by
        rw [Command.effect?, hkey]
      exact .done heffect _
    | some key =>
      have heffect : (Command.sort input).effect? files = some (.sort key) := by
        rw [Command.effect?, hkey]
      exact .done heffect _
  | help => exact .idle rfl rfl (by simp) _
  | quit => exact .idle rfl rfl (by simp) _
  | unknown name => exact .idle rfl rfl (by simp) _

/-! ## Lines -/

/-- The lasting effect of a line, if it has one. -/
def effectOf (line : String) : Option Effect :=
  (Command.ofLine line).effect? files

theorem turns (line : String) : s.Turns files (.ofLine line) (s.turn files line) :=
  s.perform_turns files (.ofLine line)

theorem turn_lambda {line : String} {q : Query} (hc : Command.ofLine line = .lambda line)
    (hq : s.queryOf line = .ok q) : s.turn files line = .ok false ⟨s, shown q ++ s.found q⟩ := by
  rw [turn, hc, perform, EStateM.run_bind, run_run, hq]
  rfl

/-- A line is refused only before it has changed or printed anything. -/
theorem handle_eq_error_iff {line : String} {e : ShellError} :
    s.handle files line = .error e ↔ s.turn files line = .error e ⟨s, []⟩ := by
  have hturns := s.turns files line
  unfold handle
  generalize s.turn files line = r at hturns
  cases hturns with
  | done | idle => exact ⟨nofun, nofun⟩
  | failed => exact ⟨fun h => Except.error.inj h ▸ rfl, fun h => (EStateM.Result.error.inj h).1 ▸ rfl⟩

theorem handle_eq_ok_iff {line : String} {reply : Reply} :
    s.handle files line = .ok reply ↔
      s.turn files line = .ok reply.quit ⟨reply.shell, reply.printed⟩ := by
  obtain ⟨shell, printed, quit⟩ := reply
  unfold handle
  split
  · rename_i quit' t h
    obtain ⟨shell', printed'⟩ := t
    simp only [h, Except.ok.injEq, Reply.mk.injEq, EStateM.Result.ok.injEq, Turn.mk.injEq]
    rw [← and_assoc, and_comm]
  · rename_i h
    rw [h]
    exact ⟨nofun, nofun⟩

/-- Whether or not a line fails, it changes the session by its effect. -/
theorem next_eq (line : String) :
    s.next files line =
      match effectOf files line with
      | none => s
      | some e => e.apply s := by
  have hturns := s.turns files line
  unfold next effectOf
  generalize s.turn files line = r at hturns
  cases hturns with
  | done he => rw [he]
  | idle he => rw [he]
  | failed he => rw [he]

/-- The effects of lines. -/
def effects (lines : List String) : List Effect :=
  lines.filterMap (effectOf files)

/-- A session comes from the effects of its lines. -/
theorem after_eq (lines : List String) :
    s.after files lines = (effects files lines).foldl Effect.apply s := by
  induction lines generalizing s with
  | nil => rfl
  | cons line later ih =>
    have hnext := s.next_eq files line
    rw [after, List.foldl_cons, hnext, effects, List.filterMap_cons]
    cases effectOf files line with
    | none => exact ih s
    | some e => exact ih (e.apply s)

end Shell

end RecordQuery
