import TemplateRouter.Handler
/-
Loading a directory into a table, and loading it again when it has changed.
-/
namespace TemplateRouter

abbrev Listing := Except FileError Directory

inductive LoadError where
  | unlisted (dir : Bytes) (cause : FileError)
  | rejected (dir : Bytes) (cause : RouteError)
  deriving Repr, DecidableEq

def LoadError.chain : LoadError → List String
  | unlisted dir cause =>
    ["failed to list handler directory " ++ Text.Utf8.display dir, cause.message]
  | rejected dir cause =>
    ["failed to build routes from " ++ Text.Utf8.display dir, cause.message, cause.cause.message]

/-- Gives each route a handle of its own, counted from `first`. -/
def share {α : Type} (first : Nat) (routes : List (Route α)) : List (SharedRoute α) :=
  (routes.zipIdx first).map fun (r, handle) => { r with handle }

def loadRoutes (dir : Bytes) (listing : Listing) (first : Nat) :
    Noted (Except LoadError (List (SharedRoute Served))) :=
  match listing with
  | .error cause => pure (.error (.unlisted dir cause))
  | .ok d => do
    let handlers ← Handler.loadAll dir d.manifests
    let routes := handlers.flatMap Handler.routes
    let patterns := routes.map fun r => r.pattern.text
    Noted.tell (.handlersLoaded (Text.Utf8.display dir) handlers.length patterns)
      (.loaded dir patterns)
    pure (.ok (share first routes))

def reportsOn (dir : Bytes) (listing : Listing) : List Report := (loadRoutes dir listing 0).records

def loadTable [Regex.Engine] (dir : Bytes) (listing : Listing) (limit : Nat) :
    Noted (Except LoadError (Table Served)) := do
  match ← loadRoutes dir listing 0 with
  | .error e => pure (.error e)
  | .ok routes => do
    let table ← Noted.ofTraced (Table.ofRoutes routes limit)
    pure (table.mapError (.rejected dir))

/-- A table that follows a directory. No route has a handle from `next` on. -/
structure Watch where
  dir : Bytes
  table : Table Served
  next : Nat

/-- What the system tells of a watched directory: that it has changed, with what is there now, that
something else went on, or that it cannot be watched any more. -/
inductive Watch.Signal where
  | changed (listing : Listing)
  | other
  | failed (error : String)

namespace Watch

def start (dir : Bytes) (table : Table Served) : Watch := ⟨dir, table, table.size⟩

variable [Regex.Engine]

/-- Loads the directory again. The routes are given if they are now those of the table; if
anything fails, the table is as before. -/
def reload (w : Watch) (listing : Listing) :
    Traced (Option (List (SharedRoute Served)) × Watch) := do
  let dir := Text.Utf8.display w.dir
  match ← (loadRoutes w.dir listing w.next).logged with
  | .error e => do
    Told.emit (.reloadFailed dir (": ".intercalate e.chain))
    pure (none, w)
  | .ok routes => do
    let next := w.next + routes.length
    match ← w.table.replace routes with
    | (.error e, table) => do
      Told.emit (.reloadRejected dir e.message)
      pure (none, { w with table, next })
    | (.ok _, table) => do
      Told.emit (.reloadApplied routes.length)
      pure (some routes, { w with table, next })

def receive (w : Watch) : Signal → Traced (Option (List (SharedRoute Served)) × Watch)
  | .changed listing => w.reload listing
  | .other => pure (none, w)
  | .failed error => do
    Told.emit (.watchFailed error)
    pure (none, w)

end Watch

end TemplateRouter
