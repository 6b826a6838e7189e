import TemplateRouter.CommandLine.Help
import TemplateRouter.CommandLine.Run
import TemplateRouter.Log.Settings
/-
The program: variables, files and streams around the commands.
-/
namespace TemplateRouter.Main

def variableNames : List String :=
  ["ROUTESWITCH_HANDLERS_DIR", "ROUTESWITCH_HOT_RELOAD", "ROUTESWITCH_REGEX_SIZE_LIMIT",
    "ROUTESWITCH_LOG_LEVEL", "ROUTESWITCH_LOG_FORMAT", "ROUTESWITCH_LOG_TARGET_FILTER",
    "ROUTESWITCH_LOG_INCLUDE_LOCATION", "RUST_LOG"]

def readEnvironment : IO Environment :=
  variableNames.filterMapM fun name => do
    return (← IO.getEnv name).map fun value => (name, Text.Utf8.encode value)

def fileError : IO.Error → FileError
  | .inappropriateType .. => .notFolder
  | .noFileOrDirectory .. => .missing
  | .permissionDenied .. => .refused "Permission denied (os error 13)"
  | e => .refused (toString e)

def readContent (entry : IO.FS.DirEntry) : IO Content := do
  try return .bytes (← IO.FS.readBinFile entry.path).toList
  catch e => return .unread (fileError e)

def readItem (entry : IO.FS.DirEntry) : IO (Option (FileName × Item)) := do
  let name := Text.Utf8.encode entry.fileName
  try
    match (← entry.path.metadata).type with
    | .file => return some (name, .file (← readContent entry))
    | _ => return some (name, .folder)
  catch _ => return none

def list (dir : Bytes) : IO Listing := do
  if dir.isEmpty then return .error .missing
  let here : IO.FS.DirEntry := ⟨Text.Utf8.display dir, "."⟩
  try
    let entries ← here.path.readDir
    return .ok (← entries.toList.filterMapM readItem)
  catch e => return .error (fileError e)

/-- Where events go, and which of them. -/
structure Journal where
  format : Log.Format
  filter : Log.Filter

def Journal.write (j : Journal) (events : List Event) : IO Unit := do
  let stderr ← IO.getStderr
  for entry in j.filter.entries j.format events do stderr.putStrLn entry

def Journal.run {α : Type} (j : Journal) (x : Traced α) : IO α := do
  j.write x.events
  return x.value

def printLines (lines : List String) : IO Unit := do
  let stdout ← IO.getStdout
  stdout.putStr (written lines)
  stdout.flush

/-- The next line of a stream without its end, or nothing at the end of the stream. -/
partial def readLine (input : IO.FS.Stream) (line : Bytes) : IO (Option Bytes) := do
  match (← input.read 1).toList with
  | [] => return if line.isEmpty then none else some line.reverse
  | 10 :: _ => return some line.reverse
  | b :: _ => readLine input (b :: line)

/-- Loads a watched directory again if it is no longer what it was. -/
def refresh (j : Journal) (w : Watch) (seen : Listing) : IO (Watch × Listing) := do
  let now ← list w.dir
  if now.toOption == seen.toOption then return (w, seen)
  return (← j.run (Command.follow w (.changed now)), now)

/-- Answers paths from a stream, line by line; tells whether all matched, or what went wrong. -/
partial def answerLines (j : Journal) (watching : Bool) (w : Watch) (seen : Listing)
    (success : Bool) (input : IO.FS.Stream) : IO (Except FileError Bool) := do
  match ← readLine input [] with
  | none => return .ok success
  | some line =>
    let (w, seen) ← if watching then refresh j w seen else pure (w, seen)
    match Command.pathOf line with
    | .error e => return .error e
    | .ok none => answerLines j watching w seen success input
    | .ok (some path) =>
      let a ← j.run (Command.answer w.table path)
      printLines [Command.answerLine a]
      answerLines j watching w seen (success && a.isSome) input

def finish (o : Outcome) : IO UInt32 := do
  printLines o.lines
  if !o.failure.isEmpty then (← IO.getStderr).putStrLn (Outcome.report o.failure)
  return UInt32.ofNat o.status

def runCommand (c : Command) (j : Journal) (environment : Environment) : IO UInt32 := do
  let settings := Settings.ofEnvironment environment
  let dir := c.directory settings
  let listing ← list dir
  match ← j.run (loadTable dir listing settings.sizeLimit).logged with
  | .error e => finish ⟨false, [], e.chain⟩
  | .ok table =>
    match c with
    | .lookUp _ _ [] =>
      let watching := c.watches settings
      if watching then j.write [.watchStarted (Text.Utf8.display dir)]
      let input ← IO.getStdin
      match ← answerLines j watching (.start dir table) listing true input with
      | .ok success => finish ⟨success, [], []⟩
      | .error e => finish ⟨false, [], Command.inputFailure e⟩
    | c => finish (← j.run (c.serve { environment, list := fun _ => listing, input := [] } table))

def run (args : List String) : IO UInt32 := do
  let environment ← readEnvironment
  let logs := Log.Settings.ofEnvironment environment
  let stderr ← IO.getStderr
  for warning in logs.warnings do stderr.putStrLn warning
  match CommandLine.parse args with
  | .error (.help page) => do
    printLines page.lines
    return 0
  | .error _ => do
    stderr.putStrLn "error: the arguments make no command; for more information, try '--help'."
    return 2
  | .ok c => runCommand c ⟨logs.format, logs.filter environment⟩ environment

end TemplateRouter.Main

def main (args : List String) : IO UInt32 := TemplateRouter.Main.run args
