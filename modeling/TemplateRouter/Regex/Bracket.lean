import TemplateRouter.Regex.Escape
/-
Bracketed classes: ranges, nested classes and the operators between them.
-/
namespace TemplateRouter.Regex.Bracket

inductive Operator where
  | intersection
  | difference
  | symmetricDifference

/-- A set, and how deep the parts it is written with lie inside one another. -/
structure Nested where
  set : CharSet
  depth : Nat := 0

/-- Members side by side, which lie one deeper if there are several. -/
structure Members extends Nested where
  count : Nat := 0

namespace Members

def none : Members := ⟨⟨.none, 0⟩, 0⟩

def add (m : Members) (n : Nested) : Members :=
  ⟨⟨m.set.add n.set, Nat.max m.depth n.depth⟩, m.count + 1⟩

def nested (m : Members) : Nested := ⟨m.set, if m.count ≤ 1 then m.depth else m.depth + 1⟩

end Members

/-- The left operand that waits for the right one, if an operator has been read. -/
abbrev Pending := Option (Nested × Operator)

def Operator.apply : Operator → CharSet → CharSet → CharSet
  | intersection => .inter
  | difference => .diff
  | symmetricDifference => .symmDiff

/-- Joins a right operand to the pending left one; both are folded first under the case flag. -/
def join (f : Flags) (pending : Pending) (right : Members) : Nested :=
  let right := right.nested
  match pending with
  | none => right
  | some (left, op) =>
    ⟨op.apply (f.fold left.set) (f.fold right.set), Nat.max left.depth right.depth + 1⟩

/-- The set of a whole bracket: folding comes before negation. -/
def close (f : Flags) (negated : Bool) (s : CharSet) : Except SyntaxError CharSet :=
  if negated then f.complement (f.fold s) else .ok (f.fold s)

def leadingHyphens (f : Flags) (acc : Members) : Nat → List Char → Members × List Char
  | 0, cs => (acc, cs)
  | fuel + 1, cs =>
    match f.skip cs with
    | '-' :: rest => leadingHyphens f (acc.add ⟨.singleton '-', 0⟩) fuel rest
    | cs => (acc, cs)

/-- What may only stand first: a caret, then hyphens, then a literal closing bracket. -/
def opening (f : Flags) (cs : List Char) : Bool × Members × List Char :=
  let (negated, cs) := match f.skip cs with
    | '^' :: rest => (true, rest)
    | cs => (false, cs)
  match leadingHyphens f .none (cs.length + 1) cs with
  | (acc, ']' :: rest) =>
    if acc.count = 0 then (negated, acc.add ⟨.singleton ']', 0⟩, rest)
    else (negated, acc, ']' :: rest)
  | (acc, cs) => (negated, acc, cs)

def asciiClass? (f : Flags) (cs : List Char) : Option (Except SyntaxError CharSet × List Char) :=
  match cs with
  | ':' :: cs =>
    let (negated, cs) := match cs with
      | '^' :: rest => (true, rest)
      | _ => (false, cs)
    match cs.dropWhile (· != ':') with
    | ':' :: ']' :: rest =>
      (CharSet.ofAsciiName? (String.ofList (cs.takeWhile (· != ':')))).map fun s =>
        (close f negated s, rest)
    | _ => none
  | _ => none

/-- A class in `-u` mode holds ASCII characters only. -/
def permit (f : Flags) : Escaped → Except SyntaxError Escaped
  | .literal c => if f.unicode || c.toNat < 128 then .ok (.literal c) else .error .notText
  | e => .ok e

variable [Properties]

def item (f : Flags) : List Char → Except SyntaxError (Escaped × List Char)
  | [] => .error .classUnclosed
  | '\\' :: cs => (Escaped.read f cs).bind fun (e, cs) => (permit f e).map (·, cs)
  | c :: cs => (permit f (.literal c)).map (·, cs)

def asSet : Escaped → Except SyntaxError CharSet
  | .literal c => .ok (.singleton c)
  | .set s => .ok s
  | .look _ => .error .classEscapeInvalid

/-- Whether a hyphen makes no range: before `]` or another hyphen. In verbose mode blanks are passed
over, and the number sign of a comment. -/
def endsRange (f : Flags) (cs : List Char) : Bool :=
  let next := if f.verbose then
      match cs.dropWhile Text.isBlank with
      | '#' :: rest => rest.dropWhile Text.isBlank
      | rest => rest
    else cs
  match next with
  | ']' :: _ | '-' :: _ => true
  | _ => false

def member (f : Flags) (cs : List Char) : Except SyntaxError (CharSet × List Char) :=
  (item f cs).bind fun (first, cs) =>
    match f.skip cs with
    | '-' :: rest =>
      if endsRange f rest then (asSet first).map fun s => (s, f.skip cs)
      else
        (item f (f.skip rest)).bind fun (last, rest) =>
          match first, last with
          | .literal lo, .literal hi =>
            if lo ≤ hi then .ok (.range lo hi, rest) else .error .classRangeInvalid
          | _, _ => .error .classRangeInvalid
    | rest => (asSet first).map fun s => (s, rest)

def items (f : Flags) : Nat → Pending → Members → List Char →
    Except SyntaxError (Nested × List Char)
  | 0, _, _, _ => .error .classUnclosed
  | fuel + 1, pending, acc, cs =>
    match f.skip cs with
    | [] => .error .classUnclosed
    | ']' :: rest => .ok (join f pending acc, rest)
    | '&' :: '&' :: rest =>
      items f fuel (some (join f pending acc, .intersection)) .none rest
    | '-' :: '-' :: rest =>
      items f fuel (some (join f pending acc, .difference)) .none rest
    | '~' :: '~' :: rest =>
      items f fuel (some (join f pending acc, .symmetricDifference)) .none rest
    | '[' :: rest =>
      match asciiClass? f rest with
      | some (s, rest) => s.bind fun s => items f fuel pending (acc.add ⟨s, 0⟩) rest
      | none =>
        match opening f rest with
        | (negated, start, rest) =>
          (items f fuel none start rest).bind fun (inner, rest) =>
            (close f negated inner.set).bind fun s =>
              items f fuel pending (acc.add ⟨s, inner.depth + 1⟩) rest
    | cs => (member f cs).bind fun (s, rest) => items f fuel pending (acc.add ⟨s, 0⟩) rest

def read (f : Flags) (cs : List Char) : Except SyntaxError (Nested × List Char) :=
  match opening f cs with
  | (negated, start, rest) =>
    (items f (rest.length + 1) none start rest).bind fun (inner, rest) =>
      (close f negated inner.set).map fun s => (⟨s, inner.depth + 1⟩, rest)

end TemplateRouter.Regex.Bracket
