import RecordQuery.Manager
import RecordQuery.Json.Writer
import RecordQuery.Query.Filter
import RecordQuery.Query.Json

/-!
# The shell

A session of lambdas and commands. A lambda is shown as conditions and as JSON, and then filters and
sorts the records that have been loaded. Commands begin with a colon. They load records, bind names for
lambdas to use, and choose the sort order. Each line is a program of the `Console` monad, which can
print and change the session before it fails.
-/

namespace RecordQuery

/-- What a line asks for. -/
inductive Command
  | lambda (text : String)
  | load (path : String)
  | bind (input : String)
  | sort (input : String)
  | help
  | quit
  | unknown (name : String)
  deriving DecidableEq

namespace Command

/-- The name and the input of a line that begins with a colon. The name ends at the first blank. -/
def parts? (line : String) : Option (String × String) :=
  match line.toList with
  | ':' :: rest =>
    let (name, input) := (Text.splitAtBlank? (String.ofList rest)).getD (String.ofList rest, "")
    some (name, Text.trim input)
  | _ => none

/-- The command of a name. -/
def named (name input : String) : Command :=
  if name = "quit" ∨ name = "q" then .quit
  else if name = "help" ∨ name = "h" then .help
  else if name = "load" then .load input
  else if name = "bind" then .bind input
  else if name = "sort" then .sort input
  else .unknown name

/-- The command of a line, which is a lambda unless it begins with a colon. -/
def ofLine (line : String) : Command :=
  match parts? line with
  | some (name, input) => named name input
  | none => .lambda line

end Command

/-- Why a line fails. -/
inductive ShellError
  | unreadable (path : String)
  /-- A file does not hold an array of records. -/
  | notRecords (path : String)
  | bindUsage
  | query (e : QueryError)

/-- The wording of an error. -/
def ShellError.message : ShellError → String
  | unreadable path => "无法读取记录文件 " ++ path
  | notRecords path => "无法解析记录文件 " ++ path
  | bindUsage => "用法: :bind <name> <json>"
  | query e => e.message

/-- A session. -/
structure Shell where
  manager : Manager
  bindings : Fields Value := []
  records : List Document := []
  /-- The fields to sort by, with those to sort in descending order marked. -/
  sorts : List (String × Bool) := []

/-- A session after a line, with what the line printed. -/
structure Reply where
  shell : Shell
  printed : List String := []
  quit : Bool := false

/-- A line at work: the session as it is by now, and what has been printed so far. -/
structure Turn where
  shell : Shell
  printed : List String := []

/-- A program that carries out a line. It changes the session and prints as it goes, and may fail on the
way. -/
abbrev Console := EStateM ShellError Turn

namespace Console

/-- Prints a text. -/
def print (text : String) : Console Unit :=
  modify fun t => { t with printed := t.printed ++ [text] }

/-- Changes the session. -/
def update (f : Shell → Shell) : Console Unit :=
  modify fun t => { t with shell := f t.shell }

end Console

namespace Shell

/-- The name of the configuration file. -/
def configFile : String := "criteria_query.json"

/-- What the shell understands. -/
def help : String :=
  "输入 lambda 表达式，例如：\n" ++
  "  x => x.Age > 18 && x.Name.StartsWith(\"A\")\n" ++
  "命令：\n" ++
  "  :load <file.json>    加载记录（JSON对象数组）\n" ++
  "  :bind <name> <json>  定义捕获变量，例如 :bind ids [1, 2, 3]\n" ++
  "  :sort [field] [desc] 追加排序字段，不带参数时清空\n" ++
  "  :help                显示帮助\n" ++
  "  :quit                退出"

/-- A new session, given the content of the configuration file if there is one. Without a usable file
the session has the default configuration. -/
def start (config : Option String) : Reply :=
  match Config.load configFile config with
  | .ok config =>
    { shell := { manager := { config } }, printed := ["✅ 成功从JSON配置文件加载配置: " ++ configFile] }
  | .error e =>
    { shell := { manager := {} }
      printed := ["⚠️ 无法加载JSON配置文件 (" ++ e.message ++ "), 使用默认配置"] }

/-- The records of a JSON array of objects. -/
def recordsOf? (text : String) : Option (List Document) :=
  match Json.parse? text with
  | some (.array items) => items.mapM Document.ofJson?
  | _ => none

/-- Loads the records of a file in place of those before. -/
def load (path : String) (content : Option String) : Console Unit :=
  match content with
  | none => throw (.unreadable path)
  | some text =>
    match recordsOf? text with
    | none => throw (.notRecords path)
    | some records => do
      Console.update fun s => { s with records }
      Console.print ("✓ 加载了 " ++ Decimal.natText records.length ++ " 条记录")

/-- The value of a text: that of its JSON, or else the text itself. -/
def valueOf (text : String) : Value :=
  match Json.parse? text with
  | some j => Value.ofJson j
  | none => .string text

/-- Binds a name to a value. -/
def bindName (input : String) : Console Unit :=
  match Text.splitAtBlank? input with
  | none => throw .bindUsage
  | some (name, raw) => do
    let v := valueOf (Text.trim raw)
    Console.print ("✓ " ++ name ++ " = " ++ v.text)
    Console.update fun s => { s with bindings := s.bindings.insert name v }

/-- Sort keys as the shell shows them. -/
def sortsText (sorts : List (String × Bool)) : String :=
  let one := fun (p : String × Bool) => "(" ++ Text.quoted p.1 ++ ", " ++ Value.boolText p.2 ++ ")"
  "[" ++ ", ".intercalate (sorts.map one) ++ "]"

/-- The sort key that a text asks for, if it names a field. -/
def sortKey? (input : String) : Option (String × Bool) :=
  match Text.words input with
  | [] => none
  | [field] => some (field, false)
  | field :: direction :: _ => some (field, direction.map Char.toLower == "desc")

/-- Adds a sort key, or drops all keys if no field is given. -/
def sortBy (input : String) : Console Unit := do
  match sortKey? input with
  | none => Console.update fun s => { s with sorts := [] }
  | some key => Console.update fun s => { s with sorts := s.sorts ++ [key] }
  Console.print ("✓ 排序: " ++ sortsText (← get).shell.sorts)

/-- The query of a lambda, with the sort keys of the session. -/
def queryOf (s : Shell) (text : String) : Except QueryError Query :=
  match Lambda.parse text s.bindings with
  | .error e => .error (.parse e)
  | .ok l =>
    match (Query.addLambda .and l).run s.manager.create with
    | .error e _ => .error e
    | .ok _ q => .ok (s.sorts.foldl (fun q p => q.orderBy p.1 p.2) q)

/-- What a session without records shows of a query. -/
def shown (q : Query) : List String :=
  ["[条件]: " ++ q.text, "[JSON]:\n" ++ q.toJson.pretty]

/-- The records that a query keeps, in its order. -/
def matchesOf (s : Shell) (q : Query) : List Document :=
  q.sort Document.record (q.filter Document.record s.records)

/-- Shows a lambda as a query, and the records that it keeps if there are any records. -/
def run (text : String) : Console Unit := do
  let s := (← get).shell
  match s.queryOf text with
  | .error e => throw (.query e)
  | .ok q =>
    (shown q).forM Console.print
    if s.records.isEmpty then return
    let found := s.matchesOf q
    let total := Decimal.natText found.length ++ "/" ++ Decimal.natText s.records.length
    Console.print ("[匹配 " ++ total ++ "]:")
    found.forM fun d => Console.print ("  " ++ d.text)

/-- Carries out a command, given the files by path. Returns whether the session ends. -/
def perform (files : String → Option String) : Command → Console Bool
  | .lambda text => do
    run text
    return false
  | .load path => do
    load path (files path)
    return false
  | .bind input => do
    bindName input
    return false
  | .sort input => do
    sortBy input
    return false
  | .help => do
    Console.print help
    return false
  | .quit => return true
  | .unknown name => do
    Console.print ("✗ 未知命令: :" ++ name)
    return false

/-- What comes of a line that is not blank and has no blanks around it, given the files by path. If the
line fails, the turn is as far as the line got. -/
def turn (s : Shell) (files : String → Option String) (line : String) :
    EStateM.Result ShellError Turn Bool :=
  (perform files (.ofLine line)).run { shell := s }

/-- Carries out a line that is not blank and has no blanks around it, given the files by path. -/
def handle (s : Shell) (files : String → Option String) (line : String) : Except ShellError Reply :=
  match s.turn files line with
  | .ok quit t => .ok { shell := t.shell, printed := t.printed, quit }
  | .error e _ => .error e

/-- The session after a line, whether or not the line fails. -/
def next (s : Shell) (files : String → Option String) (line : String) : Shell :=
  match s.turn files line with
  | .ok _ t => t.shell
  | .error _ t => t.shell

/-- The session after several lines. -/
def after (s : Shell) (files : String → Option String) (lines : List String) : Shell :=
  lines.foldl (fun s line => s.next files line) s

end Shell

end RecordQuery
