import TemplateRouter.Regex.CharSet
/-
Regular expressions as trees: sequences, alternatives and repetitions.
-/
namespace TemplateRouter.Regex

/-- A condition on the characters on both sides of a position. -/
inductive Look where
  | textStart
  | textEnd
  | lineStart (crlf : Bool)
  | lineEnd (crlf : Bool)
  | wordBoundary (w : CharSet)
  | notWordBoundary (w : CharSet)
  | wordStart (w : CharSet)
  | wordEnd (w : CharSet)
  | wordStartHalf (w : CharSet)
  | wordEndHalf (w : CharSet)
  deriving Repr, DecidableEq

/-- Whether an optional neighbour belongs to a set; the edge of the text belongs to none. -/
def isIn (s : CharSet) (c : Option Char) : Bool := c.any s.contains

/-- With `crlf`, a line ends before `\r` or `\n` but not between the two. -/
def Look.holds : Look → Option Char → Option Char → Bool
  | textStart, before, _ => before.isNone
  | textEnd, _, after => after.isNone
  | lineStart false, before, _ => before.isNone || before == some '\n'
  | lineStart true, before, after =>
    before.isNone || before == some '\n' || (before == some '\r' && after != some '\n')
  | lineEnd false, _, after => after.isNone || after == some '\n'
  | lineEnd true, before, after =>
    after.isNone || after == some '\r' || (after == some '\n' && before != some '\r')
  | wordBoundary w, before, after => isIn w before != isIn w after
  | notWordBoundary w, before, after => isIn w before == isIn w after
  | wordStart w, before, after => !isIn w before && isIn w after
  | wordEnd w, before, after => isIn w before && !isIn w after
  | wordStartHalf w, before, _ => !isIn w before
  | wordEndHalf w, _, after => !isIn w after

def Look.words? : Look → Option CharSet
  | wordBoundary w | notWordBoundary w | wordStart w | wordEnd w | wordStartHalf w
  | wordEndHalf w => some w
  | _ => none

/-- A loop takes between `min` and `max` rounds, as many as it can or as few. -/
inductive Node where
  | empty
  | look (l : Look)
  | set (s : CharSet)
  | cat (a b : Node)
  | alt (a b : Node)
  | loop (a : Node) (min : Nat) (max : Option Nat) (greedy : Bool)
  | group (index : Nat) (a : Node)
  deriving Repr, DecidableEq

namespace Node

def parts : Node → List Node
  | empty => []
  | cat a b => a.parts ++ b.parts
  | a => [a]

def ofParts : List Node → Node
  | [] => empty
  | [a] => a
  | a :: rest => cat a (ofParts rest)

/-- One after the other; sequences among them are dissolved. -/
def seq (l : List Node) : Node := ofParts (l.flatMap parts)

def branches : Node → List Node
  | alt a b => a.branches ++ b.branches
  | a => [a]

def ofBranches : List Node → Node
  | [] => empty
  | [a] => a
  | a :: rest => alt a (ofBranches rest)

def sharedStart : List Node → List Node → List Node
  | a :: as, b :: bs => if a = b then a :: sharedStart as bs else []
  | _, _ => []

/-- What all of several sequences begin with, if each has two members or more. -/
def beginning : List (List Node) → List Node
  | [] => []
  | p :: ps => if (p :: ps).all (1 < ·.length) then ps.foldl sharedStart p else []

/-- The alternatives in order of preference. What all of them begin with is taken out of the
choice, so that each way to match it is tried with every alternative before the next way is. -/
def choice (l : List Node) : Node :=
  match l.flatMap branches with
  | a :: b :: rest =>
    let sequences := (a :: b :: rest).map parts
    let shared := beginning sequences
    let rests := sequences.map fun p => ofParts (p.drop shared.length)
    seq (shared ++ [ofBranches (rests.flatMap branches)])
  | l => ofBranches l

def consumesNothing : Node → Bool
  | empty | look _ => true
  | set _ => false
  | cat a b | alt a b => a.consumesNothing && b.consumesNothing
  | loop a _ _ _ | group _ a => a.consumesNothing

/-- Whether the tree can match without consuming a character. -/
def canBeEmpty : Node → Bool
  | empty | look _ => true
  | set _ => false
  | cat a b => a.canBeEmpty && b.canBeEmpty
  | alt a b => a.canBeEmpty || b.canBeEmpty
  | loop a min _ _ => min == 0 || a.canBeEmpty
  | group _ a => a.canBeEmpty

def looks : Node → List Look
  | empty | set _ => []
  | look l => [l]
  | cat a b | alt a b => a.looks ++ b.looks
  | loop a _ _ _ | group _ a => a.looks

def groupCount : Node → Nat
  | empty | look _ | set _ => 0
  | cat a b | alt a b => max a.groupCount b.groupCount
  | loop a _ _ _ => a.groupCount
  | group i a => max i a.groupCount

/-- Between `min` and `max` rounds; what consumes nothing is taken at most once. -/
def repeated (greedy : Bool) (a : Node) (min : Nat) (max : Option Nat) : Node :=
  let min := if a.consumesNothing then Nat.min min 1 else min
  let max := if a.consumesNothing then some ((max.getD 1).min 1) else max
  match min, max with
  | 0, some 0 => empty
  | 1, some 1 => a
  | min, max => loop a min max greedy

end Node

end TemplateRouter.Regex
