import TemplateRouter.Regex.Search
/-
Compiled regular expressions: a source text, its flags and the tree both stand for.
-/
namespace TemplateRouter

structure Regex where
  source : String
  flags : Regex.Flags
  root : Regex.Node

/-- A match of a whole expression: its text, and the text of each group that took part. -/
structure Captured where
  whole : List Char
  groups : List (Option (List Char))
  deriving Repr, DecidableEq, Inhabited

namespace Regex

/-- What the search for expressions is left to: the properties their classes may name, and how many
bytes they take when compiled, one by itself or several together. -/
class Engine extends Properties where
  size : Regex → Nat
  setSize : List Regex → Nat

def compile [Properties] (flags : Flags) (source : String) : Except SyntaxError Regex :=
  (parse flags source.toList).map fun root => { source, flags, root }

def groupCount (r : Regex) : Nat := r.root.groupCount

def captures? (r : Regex) (text : List Char) : Option Captured :=
  (r.root.search {} (.ofText text)).map fun (whole, gs) =>
    ⟨whole.text, (List.range r.groupCount).map fun i => (gs.lookup (i + 1)).map Stretch.text⟩

def isMatch (r : Regex) (text : List Char) : Bool := (r.captures? text).isSome

def CharSet.size (backwards : Bool) : CharSet → Nat
  | range lo hi => if lo = hi then 32 * lo.utf8Size else 72
  | _ => if backwards then 1000 else 424

def Node.size (backwards : Bool) : Node → Nat
  | empty | look _ => 32
  | set s => s.size backwards
  | cat a b => a.size backwards + b.size backwards
  | alt a b => a.size backwards + b.size backwards + 72
  | loop a min max _ =>
    let once := a.size backwards
    match max with
    | none => Nat.max min 1 * once + (if min = 0 then 80 else 40)
    | some max => min * once + (max - min) * (once + 40)
  | group _ a => a.size backwards + (if backwards then 0 else 64)

/-- The properties of which there are tables, by names in any spelling. -/
def tabled? (name : List Char) (value : Option (List Char)) : Option CharSet :=
  let plain := (name.filter fun c => c.isAlphanum).map Char.toLower
  match String.ofList plain, value with
  | "any", none => some .any
  | "ascii", none => some (.range '\x00' '\x7f')
  | "nd", none | "decimalnumber", none | "digit", none => some .digit
  | "whitespace", none | "wspace", none | "space", none => some .blank
  | _, _ => none

/-- An engine that counts: exactly for templates and sets of them, and roughly for the rest. -/
@[reducible]
def Engine.counted : Engine where
  property? := tabled?
  size r := Nat.max (128 + r.root.size false) (64 + r.root.size true)
  setSize
    | [] => 64
    | [r] => 64 + r.root.size true
    | rs => 96 + 4 * rs.length + (rs.map fun r => 32 + r.root.size true).foldr (· + ·) 0

end Regex

end TemplateRouter
