import RecordQuery.Shell

/-!
# The command line

Reads lines from standard input and carries them out in a session until the input ends or a line quits.
-/

namespace RecordQuery

/-- The content of a file, if it can be read. -/
def readFile? (path : String) : IO (Option String) := do
  try
    return some (← IO.FS.readFile path)
  catch _ =>
    return none

/-- The files that a command needs. -/
def filesFor (command : Command) : IO (String → Option String) := do
  match command with
  | .load path =>
    let content ← readFile? path
    return fun p => if p = path then content else none
  | _ => return fun _ => none

/-- Prints lines. -/
def printAll (lines : List String) : IO Unit :=
  lines.forM IO.println

/-- Carries out lines until the input ends or a line quits. -/
partial def loop (input : IO.FS.Stream) (shell : Shell) : IO Unit := do
  IO.print "query> "
  (← IO.getStdout).flush
  let line ← input.getLine
  if line.isEmpty then return
  let line := Text.trim line
  if line.isEmpty then loop input shell
  else
    let files ← filesFor (.ofLine line)
    match shell.turn files line with
    | .error e turn =>
      printAll turn.printed
      IO.println ("✗ " ++ e.message)
      loop input turn.shell
    | .ok quit turn =>
      printAll turn.printed
      if quit then return else loop input turn.shell

end RecordQuery

/-- Runs a session on standard input. -/
def main : IO Unit := do
  IO.println "--- Criteria Query: lambda 到条件树 ---"
  let start := RecordQuery.Shell.start (← RecordQuery.readFile? RecordQuery.Shell.configFile)
  RecordQuery.printAll start.printed
  IO.println RecordQuery.Shell.help
  RecordQuery.loop (← IO.getStdin) start.shell
