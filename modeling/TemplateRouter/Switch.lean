import TemplateRouter.Route
import TemplateRouter.Event
/-
Switches: the immutable dispatcher over an ordered list of entries.

All sources are tried at once as a set, or, where the set is too large, entry by entry.
-/
namespace TemplateRouter

/-- How a switch finds entries: by a set of its sources without their flags, or one by one. -/
inductive Matcher where
  | combined (sources : List Regex)
  | linear

structure Switch (α : Type) where
  matcher : Matcher
  entries : List (Entry α)

namespace Switch

variable {α : Type}

/-- The sources of the entries, compiled again without flags. -/
def compileSources [Regex.Properties] : List (Entry α) → Except Regex.SyntaxError (List Regex)
  | [] => .ok []
  | entry :: rest =>
    (Regex.compile {} entry.regex.source).bind fun r => (compileSources rest).map (r :: ·)

/-- A switch over entries in order of priority; a set over the limit is no error. -/
def build [Regex.Engine] (entries : List (Entry α)) (limit : Nat) :
    Traced (Except RouteError (Switch α)) :=
  match compileSources entries with
  | .error e => pure (.error (.build entries.length (.malformed e)))
  | .ok sources =>
    if Regex.Engine.setSize sources > limit then do
      Told.emit (.fallbackToLinear entries.length limit)
      pure (.ok ⟨.linear, entries⟩)
    else pure (.ok ⟨.combined sources, entries⟩)

def empty : Switch α := ⟨.combined [], []⟩

/-- The positions of the expressions that match a path, in ascending order. -/
def hits (sources : List Regex) (path : List Char) : List Nat :=
  (List.range sources.length).filter fun i =>
    match sources[i]? with
    | some r => r.isMatch path
    | none => false

def capture (path : List Char) (entry : Entry α) : Option (Entry α × Captured) :=
  (entry.regex.captures? path).map fun c => (entry, c)

def find? (s : Switch α) (path : List Char) : Option (Entry α × Captured) :=
  match s.matcher with
  | .linear => s.entries.findSome? (capture path)
  | .combined sources =>
    (hits sources path).findSome? fun i => s.entries[i]?.bind (capture path)

def isLinear (s : Switch α) : Bool :=
  match s.matcher with
  | .linear => true
  | .combined _ => false

def size (s : Switch α) : Nat := s.entries.length

def isEmpty (s : Switch α) : Bool := s.entries.isEmpty

end Switch

end TemplateRouter
