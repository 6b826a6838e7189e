import TemplateRouter.Log.Filter
import TemplateRouter.Settings
/-
Log settings that the environment gives: the form of the log, what it shows and the line for each
event. Times, threads and places in the program are no part of a line here.
-/
namespace TemplateRouter.Log

inductive Format where
  | json
  | pretty
  deriving Repr, DecidableEq, Inhabited

/-- Anything but `pretty`, in any case, is JSON. -/
def Format.ofName (s : String) : Format :=
  if Text.lower s.toList = "pretty".toList then .pretty else .json

structure Settings where
  level : String := "warn"
  format : Format := .json
  targetFilter : Option String := none
  includeLocation : Bool := false

namespace Settings

def ofEnvironment (env : Environment) : Settings where
  level := (env.text? "ROUTESWITCH_LOG_LEVEL").getD "warn"
  format := ((env.text? "ROUTESWITCH_LOG_FORMAT").map Format.ofName).getD .json
  targetFilter := env.text? "ROUTESWITCH_LOG_TARGET_FILTER"
  includeLocation := env.text? "ROUTESWITCH_LOG_INCLUDE_LOCATION" == some "true"

/-- The level a name stands for; an unknown one shows information. -/
def threshold (s : Settings) : Level :=
  match String.ofList (Text.lower s.level.toList) with
  | "trace" => .trace
  | "debug" => .debug
  | "warn" => .warn
  | "error" => .error
  | _ => .info

/-- The target directives as written, without blank ones. -/
def directiveTexts (s : Settings) : List (List Char) :=
  match s.targetFilter with
  | none => []
  | some text => ((Text.splitOn ',' text.toList).map Text.trim).filter fun d => !d.isEmpty

variable [Regex.Properties]

def malformed (s : Settings) : List (List Char) :=
  s.directiveTexts.filter fun d => (Directive.parse? d).isNone

def warnings (s : Settings) : List String :=
  s.malformed.map fun text => "Warning: Invalid log filter directive: " ++ String.ofList text

/-- What `RUST_LOG` says, or else the level, refined by the target directives. -/
def filter (s : Settings) (env : Environment) : Filter :=
  let base := ((env.text? "RUST_LOG").bind fun text => Filter.parse? text.toList).getD
    (.ofThreshold (some s.threshold))
  s.directiveTexts.foldl (fun f text =>
    match Directive.parse? text with
    | some (some d) => f.add d
    | _ => f) base

end Settings

def entryJson (e : Event) : Json :=
  .object [("level", .string e.level.name), ("fields", .object e.fields),
    ("target", .string e.target)]

/-- A value in a log line that is no JSON. -/
def plainText : Json → String
  | .string s => s
  | v => v.text

def Format.entry (f : Format) (e : Event) : String :=
  match f with
  | .json => (entryJson e).text
  | .pretty => "  " ++ e.level.name ++ " " ++ e.target ++ ": " ++
    ", ".intercalate (e.message :: e.values.map fun (name, v) => name ++ ": " ++ plainText v)

def Filter.entries (f : Filter) (format : Format) (events : List Event) : List String :=
  (events.filter f.shows).map format.entry

end TemplateRouter.Log
