import TemplateRouter.Yaml.Node
/-
Documents: nodes whose aliases have been traced to the nodes they stand for.

Anchors are numbered by how many names were in use before them, so that an anchor whose name is
used again has the number of the next new one. Of anchors with one number the last counts.
-/
namespace TemplateRouter.Yaml

/-- A node with numbers in place of names. -/
inductive Tree where
  | reference (number : Nat)
  | scalar (tag : Option Bytes) (text : List Char) (plain : Bool)
  | sequence (tag : Option Bytes) (items : List Tree)
  | mapping (tag : Option Bytes) (entries : List (Tree × Tree))
  deriving Inhabited

/-- What is known of the anchors before some node: the number of each name, the place that each
number stands for, the latest first, and the nodes at those places. -/
structure Anchors where
  place : Nat := 0
  numbers : List (List Char × Nat) := []
  places : List (Nat × Nat) := []
  trees : List (Nat × Tree) := []

namespace Anchors

def note (s : Anchors) : Option (List Char) → Anchors
  | none => s
  | some name =>
    let number := s.numbers.length
    { s with
      numbers := (name, number) :: s.numbers.filter (fun (n, _) => n != name)
      places := (number, s.place) :: s.places }

def keep (s : Anchors) (anchor : Option (List Char)) (place : Nat) (t : Tree) : Anchors :=
  if anchor.isSome then { s with trees := (place, t) :: s.trees } else s

def step (s : Anchors) : Anchors := { s with place := s.place + 1 }

end Anchors

namespace Node

mutual

/-- Traces the aliases of a node; one without an anchor before it is an error. -/
def link (s : Anchors) : Node → Option (Tree × Anchors)
  | reference name => (s.numbers.lookup name).map fun number => (.reference number, s.step)
  | scalar p text plain =>
    let t := .scalar p.tag text plain
    some (t, ((s.note p.anchor).keep p.anchor s.place t).step)
  | sequence p items =>
    (linkAll (s.note p.anchor).step items).map fun (items, next) =>
      let t := .sequence p.tag items
      (t, (next.keep p.anchor s.place t).step)
  | mapping p entries =>
    (linkEntries (s.note p.anchor).step entries).map fun (entries, next) =>
      let t := .mapping p.tag entries
      (t, (next.keep p.anchor s.place t).step)

def linkAll (s : Anchors) : List Node → Option (List Tree × Anchors)
  | [] => some ([], s)
  | n :: rest =>
    (link s n).bind fun (t, s) => (linkAll s rest).map fun (ts, s) => (t :: ts, s)

def linkEntries (s : Anchors) : List (Node × Node) → Option (List (Tree × Tree) × Anchors)
  | [] => some ([], s)
  | (k, v) :: rest =>
    (link s k).bind fun (k, s) => (link s v).bind fun (v, s) =>
      (linkEntries s rest).map fun (es, s) => ((k, v) :: es, s)

end

end Node

/-- A document with the nodes that its aliases stand for. -/
structure Document where
  root : Tree
  anchors : Anchors

namespace Document

def ofNode? (n : Node) : Option Document :=
  (n.link {}).map fun (root, anchors) => ⟨root, anchors⟩

def parse? (text : List Char) : Option Document :=
  (Token.scan text).bind fun ts => (Node.ofTokens? ts).bind ofNode?

def target? (d : Document) (number : Nat) : Option Tree :=
  (d.anchors.places.lookup number).bind fun place => d.anchors.trees.lookup place

/-- How many aliases may be followed: a hundred times the size of the document. -/
def maxJumps (d : Document) : Nat := d.anchors.place * 100

/-- Reading with a number of aliases that may still be followed. -/
abbrev Reading := StateT Nat Option

/-- Follows an alias; any other node is itself. -/
def resolve (d : Document) : Tree → Reading Tree
  | .reference number => do
    match ← get with
    | 0 => failure
    | left + 1 =>
      set left
      (d.target? number : Option Tree)
  | t => pure t

def scalarText (d : Document) (t : Tree) : Reading (List Char) := do
  match ← d.resolve t with
  | .scalar _ text _ => pure text
  | _ => failure

end Document

end TemplateRouter.Yaml
