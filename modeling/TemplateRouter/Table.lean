import TemplateRouter.Switch
import TemplateRouter.Dictionary
import TemplateRouter.Text
/-
Route tables: the ordered, mutable set of routes with a switch kept in step.
-/
namespace TemplateRouter

/-- What a path matched: its route, the captures in order, and the parameters by name. -/
structure RouteMatch (α : Type) where
  route : SharedRoute α
  captures : List (Option String)
  params : Dictionary String

namespace RouteMatch

variable {α : Type}

/-- A parameter by variable name or by position. -/
def param? (m : RouteMatch α) (name : String) : Option String := m.params.get? name

def capture? (m : RouteMatch α) (i : Nat) : Option String := m.captures[i]?.join

/-- The bindings of captures to names; a capture that took no part binds nothing. -/
def bindings (names : List String) (captures : List (Option String)) : List (String × String) :=
  (names.zip captures).filterMap fun (name, c) => c.map fun v => (name, v)

/-- Positions come first, so that a variable of the same name takes their place. -/
def paramsOf (keys : List String) (captures : List (Option String)) : Dictionary String :=
  .ofPairs (bindings ((List.range captures.length).map toString) captures ++
    bindings keys captures)

def ofCaptured (entry : Entry α) (c : Captured) : RouteMatch α :=
  let captures := c.groups.map fun g => g.map String.ofList
  ⟨entry.route, captures, paramsOf entry.keys captures⟩

end RouteMatch

/-- `registered` is what mutations start from, `switch` is what readers see. -/
structure Table (α : Type) where
  registered : List (Entry α)
  switch : Switch α
  sizeLimit : Nat

namespace Table

variable [Regex.Engine] {α : Type}

def empty : Table α := ⟨[], .empty, Template.defaultLimit⟩

/-- No entries give the empty switch, whatever the limit. -/
def buildSwitch (entries : List (Entry α)) (limit : Nat) :
    Traced (Except RouteError (Switch α)) :=
  if entries.isEmpty then pure (.ok .empty) else Switch.build entries limit

/-- The patterns of the first ten entries, which is as much as a log is told. -/
def summary (entries : List (Entry α)) : List String :=
  (entries.take 10).map fun e => e.route.pattern.text

/-- A table of routes in order; one route that does not compile fails it as a whole. -/
def ofRoutes (routes : List (SharedRoute α)) (limit : Nat) :
    Traced (Except RouteError (Table α)) :=
  match Entry.compileAll limit routes with
  | .error e => pure (.error e)
  | .ok entries => do
    match ← buildSwitch entries limit with
    | .error e => pure (.error e)
    | .ok switch => do
      Told.emit (.tableBuilt entries.length (summary entries))
      pure (.ok ⟨entries, switch, limit⟩)

/-- Puts new entries in place, or leaves the table as it is if they make no switch. -/
def install (t : Table α) (entries : List (Entry α)) (done : Event) :
    Traced (Except RouteError Unit × Table α) := do
  match ← buildSwitch entries t.sizeLimit with
  | .error e => pure (.error e, t)
  | .ok switch => do
    Told.emit done
    pure (.ok (), { t with registered := entries, switch })

def add (t : Table α) (route : SharedRoute α) : Traced (Except RouteError Unit × Table α) :=
  match Entry.compile route t.sizeLimit with
  | .error e => pure (.error e, t)
  | .ok entry =>
    let next := t.registered ++ [entry]
    t.install next (.routeAdded next.length)

/-- Removes every entry of exactly this route and counts them. -/
def remove (t : Table α) (route : SharedRoute α) :
    Traced (Except RouteError Nat × Table α) :=
  let next := t.registered.filter fun e => e.route.handle != route.handle
  let removed := t.registered.length - next.length
  if removed = 0 then do
    Told.emit (.routeNotRegistered route.pattern.text)
    pure (.ok 0, t)
  else do
    let (result, t) ← t.install next (.routeRemoved removed next.length route.pattern.text)
    pure (result.map fun _ => removed, t)

def replace (t : Table α) (routes : List (SharedRoute α)) :
    Traced (Except RouteError Unit × Table α) :=
  match Entry.compileAll t.sizeLimit routes with
  | .error e => pure (.error e, t)
  | .ok entries => t.install entries (.tableReplaced entries.length (summary entries))

def match? (t : Table α) (path : String) : Option (RouteMatch α) :=
  (t.switch.find? path.toList).map fun (entry, c) => .ofCaptured entry c

def lookup (t : Table α) (path : String) : Traced (Option (RouteMatch α)) := do
  Told.emit (.matchAttempt path t.switch.size)
  match t.match? path with
  | some m => do
    Told.emit (.routeMatched path m.route.pattern.text m.params)
    pure (some m)
  | none => do
    Told.emit (.noRouteMatched path)
    pure none

def size (t : Table α) : Nat := t.switch.size

def isEmpty (t : Table α) : Bool := t.size == 0

def routes (t : Table α) : List (SharedRoute α) := t.switch.entries.map Entry.route

def patterns (t : Table α) : List String := t.routes.map fun r => r.pattern.text

def describe (t : Table α) : String :=
  "RouteTable \x7b patterns: " ++ Text.Quoted.quoteList t.patterns ++ ", size_limit: " ++
    toString t.sizeLimit ++ " \x7d"

def dump (t : Table α) : String :=
  String.join (("[routes] count=" ++ toString t.size ++ "\n") ::
    t.switch.entries.map fun e =>
      "[route] " ++ e.route.pattern.text ++ " -> " ++ e.regex.source ++ " keys=" ++
        Text.Quoted.quoteList e.keys ++ "\n")

end Table

end TemplateRouter
