import Std.Data.HashSet
import TemplateRouter.Regex.Parser
/-
Leftmost-first search: alternatives are tried in order, and the first way to match is the match.

Each choice in the tree, between alternatives or between another round of a loop and the way out,
is made at most once at each position of the text. A second time would only repeat what has
failed or is being tried already. So the work is bounded by the product of tree and text.
-/
namespace TemplateRouter.Regex

structure Cursor where
  before : Option Char
  rest : List Char
  left : Nat
  left_eq : left = rest.length

namespace Cursor

def ofText (text : List Char) : Cursor := ⟨none, text, text.length, rfl⟩

def next? : Cursor → Option (Char × Cursor)
  | ⟨_, [], _, _⟩ => none
  | ⟨_, c :: rest, left, h⟩ => some (c, ⟨some c, rest, left - 1, by simp [h]⟩)

theorem left_of_next? {c c' : Cursor} {x : Char} (h : c.next? = some (x, c')) :
    c'.left < c.left := by
  obtain ⟨before, rest, left, hleft⟩ := c
  cases rest with
  | nil => simp [next?] at h
  | cons y rest =>
    simp only [next?, Option.some.injEq, Prod.mk.injEq] at h
    simp only [← h.2, hleft, List.length_cons]
    omega

end Cursor

/-- Part of a text, as what remains at its start and at its end. -/
structure Stretch where
  start : List Char
  stop : List Char
  deriving Repr, DecidableEq, Inhabited

def Stretch.text (s : Stretch) : List Char := s.start.take (s.start.length - s.stop.length)

@[simp] theorem Stretch.text_append (s t : List Char) : (Stretch.mk (s ++ t) t).text = s := by
  simp [Stretch.text]

abbrev Groups := List (Nat × Stretch)

/-- The choices made so far, each as its number in the tree and the length of the text left. -/
abbrev Made := Std.HashSet (Nat × Nat)

/-- A way to go on: with the choices made before, what it leads to and the choices made then. -/
abbrev Attempt (α : Type) := Made → Option α × Made

namespace Attempt

variable {α : Type}

def fail : Attempt α := fun made => (none, made)

def done (a : α) : Attempt α := fun made => (some a, made)

def orElse (x y : Attempt α) : Attempt α := fun made =>
  match x made with
  | (some a, made) => (some a, made)
  | (none, made) => y made

def either (greedy : Bool) (stay leave : Attempt α) : Attempt α :=
  if greedy then orElse stay leave else orElse leave stay

/-- Makes a choice at a position, unless it has been made there. -/
def once (place left : Nat) (x : Attempt α) : Attempt α := fun made =>
  if made.contains (place, left) then (none, made) else x (made.insert (place, left))

end Attempt

open Attempt

abbrev Continuation (α : Type) := Cursor → Groups → Attempt α

/-- A tree on the way: its choices are numbered from some place on. -/
abbrev Walk (α : Type) := Nat → Continuation α → Continuation α

namespace Walk

variable {α : Type}

/-- So many rounds. Each one has as many places as `width` says, the first of them for the choice
whether to begin it. -/
def exactly (body : Walk α) (width : Nat) : Nat → Walk α
  | 0, _, next => next
  | n + 1, place, next => body (place + 1) (exactly body width n (place + width) next)

def upTo (body : Walk α) (width : Nat) (greedy : Bool) : Nat → Walk α
  | 0, _, next => next
  | n + 1, place, next => fun cur gs =>
    once place cur.left (either greedy
      (body (place + 1) (upTo body width greedy n (place + width) next) cur gs) (next cur gs))

/-- The choice after each round of an open loop: another round or the way out. At every position
it is made once, so the length of the text bounds the rounds. -/
def again (greedy : Bool) (place : Nat) (body : Continuation α → Continuation α)
    (next : Continuation α) : Nat → Continuation α
  | 0 => fun _ _ => fail
  | n + 1 => fun cur gs =>
    once place cur.left (either greedy (body (again greedy place body next n) cur gs)
      (next cur gs))

/-- Any number of rounds. A round that can be empty has a choice of its own before the first. -/
def star (body : Walk α) (width : Nat) (greedy canBeEmpty : Bool) : Walk α :=
  fun place next cur gs =>
    let body := body (place + 1)
    if canBeEmpty then
      once place cur.left (either greedy
        (body (again greedy (place + width) body next (cur.left + 1)) cur gs) (next cur gs))
    else again greedy place body next (cur.left + 1) cur gs

def plus (body : Walk α) (greedy : Bool) : Walk α := fun place next cur gs =>
  let body := body (place + 1)
  body (again greedy place body next (cur.left + 1)) cur gs

end Walk

namespace Node

def places : Node → Nat
  | empty | look _ | set _ => 0
  | cat a b => a.places + b.places
  | alt a b => 1 + a.places + b.places
  | loop a min max _ => (max.getD min + 2) * (a.places + 1)
  | group _ a => a.places

def run {α : Type} : Node → Walk α
  | empty, _, next => next
  | look l, _, next => fun cur gs =>
    if l.holds cur.before cur.rest.head? then next cur gs else fail
  | set s, _, next => fun cur gs =>
    match cur.next? with
    | some (c, cur) => if s.contains c then next cur gs else fail
    | none => fail
  | cat a b, place, next => a.run place (b.run (place + a.places) next)
  | alt a b, place, next => fun cur gs =>
    once place cur.left (orElse (a.run (place + 1) next cur gs)
      (b.run (place + 1 + a.places) next cur gs))
  | loop a min max greedy, place, next =>
    let width := a.places + 1
    match max, min with
    | some max, min =>
      Walk.exactly a.run width min place
        (Walk.upTo a.run width greedy (max - min) (place + min * width) next)
    | none, 0 => Walk.star a.run width greedy a.canBeEmpty place next
    | none, min + 1 =>
      Walk.exactly a.run width min place
        (Walk.plus a.run greedy (place + min * width) next)
  | group i a, place, next => fun cur gs =>
    a.run place (fun stop gs => next stop ((i, ⟨cur.rest, stop.rest⟩) :: gs)) cur gs

def matchAt (a : Node) (cur : Cursor) : Attempt (Stretch × Groups) :=
  a.run 0 (fun stop gs => done (⟨cur.rest, stop.rest⟩, gs)) cur []

def search (a : Node) (made : Made) (cur : Cursor) : Option (Stretch × Groups) :=
  match a.matchAt cur made with
  | (some m, _) => some m
  | (none, made) =>
    match _h : cur.next? with
    | some (_, cur) => a.search made cur
    | none => none
termination_by cur.left
decreasing_by exact Cursor.left_of_next? _h

end Node

end TemplateRouter.Regex
