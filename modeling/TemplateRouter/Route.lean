import TemplateRouter.Template
/-
Routes: a pattern with a payload, and a route compiled into the entry that is matched.
-/
namespace TemplateRouter

namespace Template.Cause

def message : Cause → String
  | sizeExceeded limit => "Compiled regex exceeds size limit of " ++ toString limit ++ " bytes."
  | malformed _ => "<syntax>"

end Template.Cause

inductive RouteError where
  | invalidTemplate (template : String) (cause : Template.Cause)
  | build (patterns : Nat) (cause : Template.Cause)
  deriving Repr, DecidableEq

namespace RouteError

def cause : RouteError → Template.Cause
  | invalidTemplate _ c | build _ c => c

def message : RouteError → String
  | invalidTemplate template c =>
    "invalid route template '" ++ template ++ "': " ++ c.message
  | build patterns c =>
    "failed to build route switch from " ++ toString patterns ++ " patterns: " ++ c.message

end RouteError

/-- A URI template, or a regular expression the caller has compiled. -/
inductive RoutePattern where
  | template (text : String)
  | compiled (regex : Regex)

def RoutePattern.text : RoutePattern → String
  | template t => t
  | compiled r => r.source

structure Route (α : Type) where
  pattern : RoutePattern
  value : α

/-- A route with an identity of its own: equal routes under two handles are two routes. -/
structure SharedRoute (α : Type) extends Route α where
  handle : Nat

/-- A route with the expression and the variable names it is matched by. -/
structure Entry (α : Type) where
  regex : Regex
  keys : List String
  route : SharedRoute α

namespace Entry

variable [Regex.Engine] {α : Type}

/-- Compiles a route; an expression of the caller is taken as it is, without variable names. -/
def compile (route : SharedRoute α) (limit : Nat) : Except RouteError (Entry α) :=
  match route.pattern with
  | .template t =>
    match Template.compile t limit with
    | .ok c => .ok ⟨c.regex, c.keys, route⟩
    | .error e => .error (.invalidTemplate t e)
  | .compiled regex => .ok ⟨regex, [], route⟩

def compileAll (limit : Nat) : List (SharedRoute α) → Except RouteError (List (Entry α))
  | [] => .ok []
  | route :: rest =>
    (compile route limit).bind fun entry => (compileAll limit rest).map (entry :: ·)

end Entry

end TemplateRouter
