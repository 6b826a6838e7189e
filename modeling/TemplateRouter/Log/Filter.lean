import TemplateRouter.Log.Directive
import TemplateRouter.Text
/-
Filters: which events a log shows, by directives for targets and levels.
-/
namespace TemplateRouter.Log

open Text

/-- Directives, the most specific first. -/
structure Filter where
  directives : List Directive

namespace Filter

/-- Puts a directive in its place; an earlier one about the same events gives way. -/
def insert (d : Directive) : List Directive → List Directive
  | [] => [d]
  | e :: rest =>
    if d.target = e.target ∧ d.fields = e.fields then d :: rest
    else if d.precedes e then d :: e :: rest
    else e :: insert d rest

def add (f : Filter) (d : Directive) : Filter := ⟨insert d f.directives⟩

def ofThreshold (t : Threshold) : Filter := ⟨[{ threshold := t }]⟩

/-- The first directive about an event decides; without one it is not shown. -/
def shows (f : Filter) (e : Event) : Bool :=
  match f.directives.find? fun d => d.concerns e with
  | some d => d.threshold.admits e.level
  | none => false

/-- Reads a list of directives separated by commas; one that is malformed spoils it. -/
def parse? [Regex.Properties] (s : List Char) : Option Filter :=
  ((splitOn ',' s).filter fun part => !part.isEmpty).foldlM (fun f part =>
    (Directive.parse? part).map fun
      | some d => f.add d
      | none => f) ⟨[]⟩

end Filter

end TemplateRouter.Log
