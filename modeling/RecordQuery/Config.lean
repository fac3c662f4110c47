import RecordQuery.Json.Reader

/-!
# Configuration

The configuration file is a JSON object with two settings, each of which may be missing. Other members
are skipped whatever they hold, so they need only follow the grammar. The settings may also stand in
an array, in their order.
-/

namespace RecordQuery

/-- The configuration. -/
structure Config where
  /-- Whether queries are copied before they are attached to others. -/
  copies : Bool := true
  logLevel : String := "info"
  deriving DecidableEq

/-- Why a configuration file cannot be used. -/
inductive ConfigError
  | notFound (path : String)
  | unreadable (path : String)
  deriving DecidableEq

/-- The wording of an error. -/
def ConfigError.message : ConfigError → String
  | notFound path => "配置文件不存在: " ++ path
  | unreadable path => "无法解析JSON配置文件 " ++ path

namespace Config

/-- The settings read so far. -/
structure Draft where
  copies : Option Bool := none
  logLevel : Option String := none

/-- The configuration of the settings that were read. -/
def Draft.config (d : Draft) : Config :=
  ⟨d.copies.getD true, d.logLevel.getD "info"⟩

/-- Reads the switch for copying, which may be given once. -/
def Draft.readCopies? (d : Draft) : Json.Source → Option Draft
  | .bool b => if d.copies.isSome then none else some { d with copies := some b }
  | _ => none

/-- Reads the log level, which may be given once. -/
def Draft.readLogLevel? (d : Draft) : Json.Source → Option Draft
  | .string body =>
    if d.logLevel.isSome then none
    else (Json.stringOf? body).map fun level => { d with logLevel := some level }
  | _ => none

/-- Reads members. -/
def Draft.readMembers? (d : Draft) : List (List Char × Json.Source) → Option Draft
  | [] => some d
  | (body, source) :: rest =>
    match Json.stringOf? body with
    | none => none
    | some name =>
      if name = "copy_parameter_queries" then (d.readCopies? source).bind (·.readMembers? rest)
      else if name = "log_level" then (d.readLogLevel? source).bind (·.readMembers? rest)
      else d.readMembers? rest

/-- The settings of a source. -/
def draftOf? : Json.Source → Option Draft
  | .object members => ({} : Draft).readMembers? members
  | .array [] => some {}
  | .array [copies] => ({} : Draft).readCopies? copies
  | .array [copies, level] => (({} : Draft).readCopies? copies).bind (·.readLogLevel? level)
  | _ => none

/-- The configuration of a text. -/
def parse? (text : String) : Option Config :=
  ((Json.Source.read? text).bind draftOf?).map (·.config)

/-- The configuration of the file at a path, given its content if there is such a file. -/
def load (path : String) (content : Option String) : Except ConfigError Config :=
  match content with
  | none => .error (.notFound path)
  | some text =>
    match parse? text with
    | some config => .ok config
    | none => .error (.unreadable path)

end Config

end RecordQuery
