import TemplateRouter.Directory
import TemplateRouter.Table
/-
Handlers: manifests with the names of their files, and the routes of all handlers of a directory.
-/
namespace TemplateRouter

structure Handler where
  name : String
  manifest : Manifest

/-- What a route of a directory leads to: the handler that declared it, and the declaration. -/
structure Served extends Declaration where
  handler : String

namespace Served

def members (s : Served) : List (String × Json) :=
  [("handler", .string s.handler), ("path", .string s.path), ("methods", s.methods)]

def json (s : Served) : Json := .object s.members

end Served

/-- Why a manifest is of no use. -/
inductive ManifestError where
  | unreadable (path : Bytes) (cause : FileError)
  | unsupported (extension : String)
  | malformed (path : Bytes)
  deriving Repr, DecidableEq

def ManifestError.chain : ManifestError → List String
  | unreadable path cause =>
    ["failed to read handler manifest " ++ Text.Utf8.display path, cause.message]
  | unsupported extension => ["unsupported handler manifest extension '" ++ extension ++ "'"]
  | malformed path =>
    ["failed to parse handler manifest " ++ Text.Utf8.display path, "<parser>"]

namespace Handler

/-- Loads what stands under a name in a directory. A file is read before its name is looked at. -/
def load (dir : Bytes) (name : FileName) (item : Option Item) : Except ManifestError Handler :=
  let path := DirectoryPath.join dir name
  match Item.read item with
  | .error cause => .error (.unreadable path cause)
  | .ok text =>
    match name.format? with
    | none => .error (.unsupported (name.extension?.getD ""))
    | some format =>
      match Manifest.parse? format text.toList with
      | some manifest => .ok ⟨name.stem, manifest⟩
      | none => .error (.malformed path)

def routes (h : Handler) : List (Route Served) :=
  h.manifest.map fun d => ⟨.template d.path, { d with handler := h.name }⟩

end Handler

/-- A record for whoever loads a directory. -/
inductive Report where
  | skipped (path : Bytes) (handler : String) (error : ManifestError)
  | loaded (dir : Bytes) (patterns : List String)
  deriving Repr, DecidableEq

namespace Report

def level : Report → String
  | skipped .. => "error/handler"
  | loaded .. => "notice"

def message : Report → String
  | skipped path _ error => Text.Utf8.display path ++ ": " ++ ": ".intercalate error.chain
  | loaded dir patterns =>
    Text.Utf8.display dir ++ ": " ++ toString patterns.length ++ " routes"

def path : Report → Bytes
  | skipped path .. => path
  | loaded dir _ => dir

def handler? : Report → Option String
  | skipped _ handler _ => some handler
  | loaded .. => none

def error? : Report → Option ManifestError
  | skipped _ _ error => some error
  | loaded .. => none

def patterns : Report → List String
  | skipped .. => []
  | loaded _ patterns => patterns

end Report

/-- What is told while a directory is loaded: an event to the log, or a record to the caller. -/
inductive Note where
  | event (e : Event)
  | record (r : Report)
  deriving Repr, DecidableEq

def Note.event? : Note → Option Event
  | event e => some e
  | record _ => none

def Note.record? : Note → Option Report
  | event _ => none
  | record r => some r

abbrev Noted := Told Note

namespace Noted

variable {α : Type}

/-- Tells the log of an event, and then the caller. -/
def tell (e : Event) (r : Report) : Noted Unit := ⟨(), [.event e, .record r]⟩

def ofTraced (x : Traced α) : Noted α := ⟨x.value, x.events.map .event⟩

def records (x : Noted α) : List Report := x.events.filterMap Note.record?

/-- For a caller who does not ask for records only the log is told. -/
def logged (x : Noted α) : Traced α := ⟨x.value, x.events.filterMap Note.event?⟩

end Noted

/-- Loads files of a directory in turn. One that is of no use is told of and passed over. -/
def Handler.loadAll (dir : Bytes) : Directory → Noted (List Handler)
  | [] => pure []
  | (name, item) :: rest =>
    match Handler.load dir name (some item) with
    | .ok h => do
      let handlers ← loadAll dir rest
      pure (h :: handlers)
    | .error e => do
      let path := DirectoryPath.join dir name
      Noted.tell (.handlerSkipped name.stem (Text.Utf8.display path) (": ".intercalate e.chain))
        (.skipped path name.stem e)
      loadAll dir rest

namespace Directory

def handlers (dir : Bytes) (d : Directory) : List Handler := (Handler.loadAll dir d.manifests).value

/-- The routes of all handlers: by file name, then in the order of each manifest. -/
def routes (dir : Bytes) (d : Directory) : List (Route Served) :=
  (d.handlers dir).flatMap Handler.routes

end Directory

end TemplateRouter
