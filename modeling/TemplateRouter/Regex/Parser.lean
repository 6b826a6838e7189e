import TemplateRouter.Regex.Bracket
/-
Reading a regular expression: one symbol at a time over the groups still open.
-/
namespace TemplateRouter.Regex

/-- A member of a sequence, and how deep the parts it is written with lie inside one another. A
change of flags is a member that nothing can repeat. -/
inductive Item where
  | node (a : Node) (depth : Nat)
  | flagChange

def Item.depth : Item → Nat
  | node _ depth => depth
  | flagChange => 0

/-- What surrounds an open group: it is taken up again where the group closes. -/
structure Frame where
  items : List Item
  alternatives : List (Node × Nat)
  flags : Flags
  index : Option Nat

/-- Sequences, alternatives and frames are kept last first. -/
structure State where
  flags : Flags
  items : List Item := []
  alternatives : List (Node × Nat) := []
  frames : List Frame := []
  groups : Nat := 0
  names : List (List Char) := []

namespace State

def push (st : State) (a : Node) (depth : Nat := 0) : State :=
  { st with items := .node a depth :: st.items }

def nodes : List Item → List Node
  | [] => []
  | .node a _ :: rest => a :: nodes rest
  | .flagChange :: rest => nodes rest

/-- How deep parts side by side lie: one deeper if there are several. -/
def depthOf : List Nat → Nat
  | [] => 0
  | [depth] => depth
  | depths => depths.foldr Nat.max 0 + 1

def sequence (st : State) : Node × Nat :=
  (.seq (nodes st.items.reverse), depthOf (st.items.map Item.depth))

def level (st : State) : Node × Nat :=
  let all := st.sequence :: st.alternatives
  (.choice (all.map Prod.fst).reverse, depthOf (all.map Prod.snd))

def alternate (st : State) : State :=
  { st with items := [], alternatives := st.sequence :: st.alternatives }

def repeatLast (st : State) (min : Nat) (max : Option Nat) (lazily : Bool) :
    Except SyntaxError State :=
  match st.items with
  | .node a depth :: rest =>
    let repeated := Node.repeated (st.flags.swapGreed == lazily) a min max
    .ok { st with items := .node repeated (depth + 1) :: rest }
  | _ => .error .repetitionMissing

def openGroup (st : State) (inner : Flags) (capturing : Bool) : State :=
  let index := if capturing then some (st.groups + 1) else none
  { st with
    flags := inner
    items := []
    alternatives := []
    frames := ⟨st.items, st.alternatives, st.flags, index⟩ :: st.frames
    groups := index.getD st.groups }

def closeGroup (st : State) : Except SyntaxError State :=
  match st.frames with
  | [] => .error .groupUnopened
  | frame :: frames =>
    let (inner, depth) := st.level
    let a := match frame.index with
      | some i => .group i inner
      | none => inner
    .ok { st with
      flags := frame.flags
      items := .node a (depth + 1) :: frame.items
      alternatives := frame.alternatives
      frames }

/-- How deep the parts of an expression may lie inside one another. -/
def maxDepth : Nat := 250

def finish (st : State) : Except SyntaxError Node :=
  match st.frames with
  | [] => if st.level.2 ≤ maxDepth then .ok st.level.1 else .error .nestedTooDeep
  | _ :: _ => .error .groupUnclosed

def lazyMark : List Char → Bool × List Char
  | '?' :: rest => (true, rest)
  | cs => (false, cs)

/-- A decimal count, blanks around it allowed, of thirty-two bits. -/
def count (f : Flags) (cs : List Char) : Except SyntaxError (Nat × List Char) :=
  digits none (cs.length + 1) (cs.dropWhile Text.isBlank)
where
  digits (value : Option Nat) : Nat → List Char → Except SyntaxError (Nat × List Char)
    | 0, _ => .error .countInvalid
    | fuel + 1, cs =>
      match cs with
      | c :: rest =>
        if c.isDigit then digits (some (10 * value.getD 0 + (c.toNat - 48))) fuel (f.skip rest)
        else close value (c :: rest)
      | [] => close value []
  close (value : Option Nat) (cs : List Char) : Except SyntaxError (Nat × List Char) :=
    match value with
    | some n => if n < Nat.pow 2 32 then .ok (n, cs.dropWhile Text.isBlank) else .error .countInvalid
    | none => .error .countInvalid

/-- A repetition in braces, read after the opening one. -/
def counted (st : State) (cs : List Char) : Except SyntaxError (State × List Char) :=
  (count st.flags (st.flags.skip cs)).bind fun (min, rest) =>
    let bounds : Except SyntaxError (Option Nat × List Char) := match st.flags.skip rest with
      | ',' :: rest =>
        match st.flags.skip rest with
        | '}' :: rest => .ok (none, rest)
        | rest => (count st.flags rest).bind fun (max, rest) =>
          match st.flags.skip rest with
          | '}' :: rest => .ok (some max, rest)
          | _ => .error .countUnclosed
      | '}' :: rest => .ok (some min, rest)
      | _ => .error .countUnclosed
    bounds.bind fun (max, rest) =>
      let (lazily, rest) := lazyMark (st.flags.skip rest)
      if max.any (· < min) then .error .countInvalid
      else (st.repeatLast min max lazily).map fun st => (st, rest)

def readFlags (f : Flags) (on : Bool) (seen : List Char) :
    List Char → Except SyntaxError (Flags × List Char × Char × List Char)
  | [] => .error .groupUnclosed
  | c :: cs =>
    if c = ':' ∨ c = ')' then
      if seen.head? = some '-' then .error .flagDangling else .ok (f, seen, c, cs)
    else if seen.contains c then .error .flagRepeated
    else if c = '-' then readFlags f false (c :: seen) cs
    else (f.set c on).bind fun f => readFlags f on (c :: seen) cs

def isNameChar (first : Bool) (c : Char) : Bool :=
  c == '_' || (if first then Text.Property.isLetter c
    else Text.Property.isAlphanumeric c || c == '.' || c == '[' || c == ']')

def groupName (cs : List Char) : Except SyntaxError (List Char × List Char) :=
  let name := cs.takeWhile (· != '>')
  match name, cs.dropWhile (· != '>') with
  | c :: rest, _ :: after =>
    if isNameChar true c && rest.all (isNameChar false) then .ok (name, after)
    else .error .groupNameInvalid
  | _, _ => .error .groupNameInvalid

def openNamed (st : State) (cs : List Char) : Except SyntaxError (State × List Char) :=
  (groupName cs).bind fun (name, rest) =>
    if st.names.contains name then .error .groupNameDuplicate
    else .ok ({ st.openGroup st.flags true with names := name :: st.names }, rest)

def parenthesis (st : State) (cs : List Char) : Except SyntaxError (State × List Char) :=
  match st.flags.skip cs with
  | '?' :: '=' :: _ | '?' :: '!' :: _ | '?' :: '<' :: '=' :: _ | '?' :: '<' :: '!' :: _ =>
    .error .lookAroundUnsupported
  | '?' :: 'P' :: '<' :: rest | '?' :: '<' :: rest => openNamed st rest
  | '?' :: rest =>
    (readFlags st.flags true [] rest).bind fun (flags, seen, mark, rest) =>
      if mark = ':' then .ok (st.openGroup flags false, rest)
      else if seen.isEmpty then .error .repetitionMissing
      else .ok ({ st with flags, items := .flagChange :: st.items }, rest)
  | rest => .ok (st.openGroup st.flags true, rest)

def pushEscaped (st : State) : Escaped → State
  | .literal c => st.push (st.flags.literal c)
  | .look l => st.push (.look l)
  | .set s => st.push (.set s)

variable [Properties]

/-- Reads one symbol that starts with a given character. -/
def step (st : State) (c : Char) (cs : List Char) : Except SyntaxError (State × List Char) :=
  match c with
  | '(' => st.parenthesis cs
  | ')' => st.closeGroup.map fun st => (st, cs)
  | '|' => .ok (st.alternate, cs)
  | '[' => (Bracket.read st.flags cs).map fun (s, rest) => (st.push (.set s.set) s.depth, rest)
  | '?' =>
    let (lazily, rest) := lazyMark cs
    (st.repeatLast 0 (some 1) lazily).map fun st => (st, rest)
  | '*' =>
    let (lazily, rest) := lazyMark cs
    (st.repeatLast 0 none lazily).map fun st => (st, rest)
  | '+' =>
    let (lazily, rest) := lazyMark cs
    (st.repeatLast 1 none lazily).map fun st => (st, rest)
  | '{' => st.counted cs
  | '\\' => (Escaped.read st.flags cs).map fun (e, rest) => (st.pushEscaped e, rest)
  | '.' => st.flags.dot.map fun s => (st.push (.set s), cs)
  | '^' => .ok (st.push (.look st.flags.caret), cs)
  | '$' => .ok (st.push (.look st.flags.dollar), cs)
  | c => .ok (st.push (st.flags.literal c), cs)

/-- Reads symbol after symbol; each takes a character, so the length of the text is enough. -/
def readAll : Nat → State → List Char → Except SyntaxError State
  | 0, st, _ => .ok st
  | n + 1, st, cs =>
    match st.flags.skip cs with
    | [] => .ok st
    | c :: rest => (st.step c rest).bind fun (st, rest) => readAll n st rest

end State

def parse [Properties] (f : Flags) (source : List Char) : Except SyntaxError Node :=
  (State.readAll source.length { flags := f } source).bind State.finish

end TemplateRouter.Regex
