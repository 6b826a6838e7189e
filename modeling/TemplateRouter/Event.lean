import TemplateRouter.Json
import TemplateRouter.Text
/-
The log events of the router and the values that come with a record of them.
-/
namespace TemplateRouter

/-- How important an event is, the gravest first. -/
inductive Level where
  | error
  | warn
  | info
  | debug
  | trace
  deriving Repr, DecidableEq, Inhabited

namespace Level

def name : Level → String
  | error => "ERROR"
  | warn => "WARN"
  | info => "INFO"
  | debug => "DEBUG"
  | trace => "TRACE"

def rank : Level → Nat
  | error => 1
  | warn => 2
  | info => 3
  | debug => 4
  | trace => 5

end Level

/-- What a log is told of, with the values that belong to it. -/
inductive Event where
  | handlerSkipped (handler path error : String)
  | handlersLoaded (dir : String) (handlers : Nat) (patterns : List String)
  | fallbackToLinear (patterns limit : Nat)
  | tableBuilt (routes : Nat) (summary : List String)
  | routeAdded (routes : Nat)
  | routeNotRegistered (pattern : String)
  | routeRemoved (removed routes : Nat) (pattern : String)
  | tableReplaced (routes : Nat) (summary : List String)
  | matchAttempt (path : String) (routes : Nat)
  | routeMatched (path pattern : String) (params : Dictionary String)
  | noRouteMatched (path : String)
  | watchStarted (dir : String)
  | watchFailed (error : String)
  | reloadFailed (dir error : String)
  | reloadRejected (dir error : String)
  | reloadApplied (routes : Nat)
  | directoryReloaded (routes : Nat)
  deriving Repr, DecidableEq, Inhabited

namespace Event

def level : Event → Level
  | handlerSkipped .. | watchFailed _ | reloadFailed .. | reloadRejected .. => .error
  | fallbackToLinear .. => .warn
  | handlersLoaded .. | tableBuilt .. | routeAdded _ | routeRemoved .. | tableReplaced ..
  | watchStarted _ | reloadApplied _ | directoryReloaded _ => .info
  | routeNotRegistered _ | matchAttempt .. | routeMatched .. | noRouteMatched _ => .debug

/-- The part of the program an event belongs to, by which filters choose. -/
def target : Event → String
  | handlerSkipped .. | handlersLoaded .. => "routeswitch::handlers::load"
  | fallbackToLinear .. => "routeswitch::router::switch"
  | tableBuilt .. | routeAdded _ | routeNotRegistered _ | routeRemoved .. | tableReplaced ..
  | matchAttempt .. | routeMatched .. | noRouteMatched _ => "routeswitch::router::core"
  | watchStarted _ | watchFailed _ | reloadFailed .. | reloadRejected .. | reloadApplied _ =>
    "routeswitch::hot_reload"
  | directoryReloaded _ => "routeswitch::cli::commands"

def message : Event → String
  | handlerSkipped .. => "Skipping handler that failed to load"
  | handlersLoaded .. => "Handlers loaded"
  | fallbackToLinear .. =>
    "Combined route matcher exceeds size limit, falling back to linear scan"
  | tableBuilt .. => "Route table built"
  | routeAdded _ => "Route added"
  | routeNotRegistered _ => "Route not registered, nothing removed"
  | routeRemoved .. => "Route removed"
  | tableReplaced .. => "Route table replaced"
  | matchAttempt .. => "Route match attempt"
  | routeMatched .. => "Route matched"
  | noRouteMatched _ => "No route matched"
  | watchStarted _ => "hot-reload: watching handler directory"
  | watchFailed _ => "hot-reload: watch error"
  | reloadFailed .. => "hot-reload: load failed"
  | reloadRejected .. => "hot-reload: keeping previous routes"
  | reloadApplied _ => "hot-reload: applied route updates"
  | directoryReloaded _ => "Handler directory reloaded"

/-- Parameters in the order of their names. -/
def quoteParams (params : Dictionary String) : String :=
  "\x7b" ++ ", ".intercalate (params.map fun (name, value) =>
    Text.Quoted.quote name ++ ": " ++ Text.Quoted.quote value) ++ "\x7d"

/-- The values of an event by name: counts are numbers and all else is text. -/
def values : Event → List (String × Json)
  | handlerSkipped handler path error =>
    [("handler", .string handler), ("path", .string path), ("error", .string error)]
  | handlersLoaded dir handlers patterns =>
    [("handlers_dir", .string dir), ("handlers_count", .int handlers),
      ("routes_count", .int patterns.length),
      ("route_patterns", .string (Text.Quoted.quoteList patterns))]
  | fallbackToLinear patterns limit => [("patterns", .int patterns), ("size_limit", .int limit)]
  | tableBuilt routes summary | tableReplaced routes summary =>
    [("routes_count", .int routes), ("route_patterns", .string (Text.Quoted.quoteList summary))]
  | routeAdded routes | reloadApplied routes | directoryReloaded routes =>
    [("routes_count", .int routes)]
  | routeNotRegistered pattern => [("route_pattern", .string pattern)]
  | routeRemoved removed routes pattern =>
    [("removed", .int removed), ("routes_count", .int routes), ("route_pattern", .string pattern)]
  | matchAttempt path routes => [("path", .string path), ("routes_count", .int routes)]
  | routeMatched path pattern params =>
    [("path", .string path), ("route_pattern", .string pattern),
      ("path_params", .string (quoteParams params))]
  | noRouteMatched path => [("path", .string path)]
  | watchStarted dir => [("handlers_dir", .string dir)]
  | watchFailed error => [("error", .string error)]
  | reloadFailed dir error | reloadRejected dir error =>
    [("handlers_dir", .string dir), ("error", .string error)]

def fields (e : Event) : List (String × Json) := ("message", .string e.message) :: e.values

def fieldNames (e : Event) : List String := e.fields.map Prod.fst

end Event

/-- A value together with what was told on the way to it, the earliest first. -/
structure Told (ε α : Type) where
  value : α
  events : List ε := []

namespace Told

variable {ε α β : Type}

def emit (e : ε) : Told ε Unit := ⟨(), [e]⟩

instance : Monad (Told ε) where
  pure a := ⟨a, []⟩
  bind x f := ⟨(f x.value).value, x.events ++ (f x.value).events⟩

@[simp] theorem value_pure (a : α) : (pure a : Told ε α).value = a := rfl

@[simp] theorem events_pure (a : α) : (pure a : Told ε α).events = [] := rfl

@[simp] theorem value_bind (x : Told ε α) (f : α → Told ε β) :
    (x >>= f).value = (f x.value).value := rfl

@[simp] theorem events_bind (x : Told ε α) (f : α → Told ε β) :
    (x >>= f).events = x.events ++ (f x.value).events := rfl

@[simp] theorem value_emit (e : ε) : (emit e).value = () := rfl

@[simp] theorem events_emit (e : ε) : (emit e).events = [e] := rfl

end Told

/-- A value with the events that a log is told of. -/
abbrev Traced := Told Event

end TemplateRouter
