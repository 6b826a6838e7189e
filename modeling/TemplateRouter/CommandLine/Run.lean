import TemplateRouter.CommandLine
import TemplateRouter.Loading
import TemplateRouter.Regex
import TemplateRouter.Settings
import TemplateRouter.Text
/-
Running a command: what it writes, how it ends, and the events on the way.
-/
namespace TemplateRouter

instance : Regex.Engine := .counted

/-- What a command can see: variables, directories by path, its input, and what keeps the system
from watching a directory, if anything does. -/
structure Surroundings where
  environment : Environment
  list : Bytes → Listing
  input : Bytes
  unwatched : Bytes → Option (List String) := fun _ => none

/-- The lines a command writes, and the texts of the error that stopped it, if any. -/
structure Outcome where
  success : Bool
  lines : List String
  failure : List String := []
  deriving Repr, DecidableEq

namespace Command

def matchJson (path : String) (m : RouteMatch Served) : Json :=
  .object [("path", .string path), ("handler", .string m.route.value.handler),
    ("pattern", .string m.route.value.path),
    ("params", .object (m.params.map fun (name, v) => (name, .string v))),
    ("methods", m.route.value.methods)]

def answer (t : Table Served) (path : String) : Traced (Option Json) := do
  let m ← t.lookup path
  pure (m.map (matchJson path))

def answerAll (t : Table Served) : List String → Traced (List (Option Json))
  | [] => pure []
  | path :: rest => do
    let a ← answer t path
    let answers ← answerAll t rest
    pure (a :: answers)

def answerLine (a : Option Json) : String := (a.map Json.text).getD "null"

def routeLine (json : Bool) (s : Served) : String :=
  if json then s.json.text else s.path ++ " -> " ++ s.handler

/-- The path a line of input holds, without the white space around it; a blank line holds none. -/
def pathOf (line : Bytes) : Except FileError (Option String) :=
  match Text.Utf8.decode? line with
  | none => .error .notText
  | some text =>
    let path := Text.trim text.toList
    .ok (if path.isEmpty then none else some (String.ofList path))

/-- The paths of lines up to the first that cannot be read, and why it cannot. -/
def pathsOf : List Bytes → List String × Option FileError
  | [] => ([], none)
  | line :: rest =>
    match pathOf line with
    | .error e => ([], some e)
    | .ok none => pathsOf rest
    | .ok (some path) => let (paths, e) := pathsOf rest; (path :: paths, e)

def inputFailure (e : FileError) : List String :=
  ["failed to read path from stdin", e.message]

/-- The answers to paths; it is a success if every path matches and all could be read. -/
def answered (answers : List (Option Json)) (e : Option FileError) : Outcome :=
  ⟨answers.all Option.isSome && e.isNone, answers.map answerLine, (e.map inputFailure).getD []⟩

def handlers : Command → Option String
  | routes handlers _ | lookUp handlers _ _ => handlers

/-- The directory a command is about: its own, or else that of the settings. -/
def directory (c : Command) (s : Settings) : Bytes :=
  (c.handlers.map Text.Utf8.encode).getD s.handlersDir

/-- Only a command that reads its paths from its input watches the directory. -/
def watches (c : Command) (s : Settings) : Bool :=
  match c with
  | routes .. => false
  | lookUp _ watch paths => paths.isEmpty && (watch || s.hotReload)

def serve (c : Command) (s : Surroundings) (t : Table Served) : Traced Outcome :=
  match c with
  | routes _ json => pure ⟨true, t.routes.map fun r => routeLine json r.value, []⟩
  | lookUp _ _ [] => do
    let (paths, e) := pathsOf (Text.splitOn 10 s.input)
    let answers ← answerAll t paths
    pure (answered answers e)
  | lookUp _ _ paths => do
    let answers ← answerAll t paths
    pure (answered answers none)

def watchFailure (dir : Bytes) (causes : List String) : List String :=
  ("failed to watch " ++ Text.Utf8.display dir) :: causes

/-- Does what a signal asks for, and tells of routes that are new. -/
def follow [Regex.Engine] (w : Watch) (signal : Watch.Signal) : Traced Watch := do
  let (fresh, w) ← w.receive signal
  match fresh with
  | some fresh => do
    Told.emit (.directoryReloaded fresh.length)
    pure w
  | none => pure w

/-- Runs a command in a directory that does not change. -/
def run [Regex.Engine] (c : Command) (s : Surroundings) : Traced Outcome := do
  let settings := Settings.ofEnvironment s.environment
  let dir := c.directory settings
  match ← (loadTable dir (s.list dir) settings.sizeLimit).logged with
  | .error e => pure ⟨false, [], e.chain⟩
  | .ok t =>
    if c.watches settings then
      match s.unwatched dir with
      | some causes => pure ⟨false, [], watchFailure dir causes⟩
      | none => do
        Told.emit (.watchStarted (Text.Utf8.display dir))
        c.serve s t
    else c.serve s t

end Command

/-- What is written of lines: each of them and a line break behind it. -/
def written (lines : List String) : String := String.join (lines.map fun line => line ++ "\n")

namespace Outcome

def status (o : Outcome) : Nat := if o.success then 0 else 1

def indented (first further text : String) : String :=
  String.ofList (first.toList ++
    List.intercalate ('\n' :: further.toList) (Text.splitOn '\n' text.toList))

def numbered (n : Nat) (cause : String) : String :=
  let digits := Nat.toDigits 10 n
  indented (String.ofList (List.replicate (5 - digits.length) ' ' ++ digits ++ [':', ' ']))
    "       " cause

/-- The report on an error and its causes, which are numbered if there are several. -/
def report : List String → String
  | [] => ""
  | [text] => "Error: " ++ text
  | [text, cause] =>
    "Error: " ++ text ++ "\n\nCaused by:\n" ++ indented "    " "    " cause
  | text :: causes =>
    "Error: " ++ text ++ "\n\nCaused by:\n" ++
      "\n".intercalate (causes.zipIdx.map fun (cause, n) => numbered n cause)

end Outcome

end TemplateRouter
