import TemplateRouter.Yaml.Cursor
/-
Block scalars: indented lines, kept as they are or folded.
-/
namespace TemplateRouter.Yaml.Block

inductive Chomping where
  | strip
  | clip
  | keep
  deriving Repr, DecidableEq

structure Header where
  chomping : Chomping := .clip
  increment : Option Nat := none

def chomping? : List Char → Option (Chomping × List Char)
  | '+' :: rest => some (.keep, rest)
  | '-' :: rest => some (.strip, rest)
  | _ => none

/-- A digit that is not zero; a zero is refused and anything else is no digit. -/
def increment? : List Char → Option (Option Nat × List Char)
  | c :: rest =>
    if c == '0' then none
    else if '1' ≤ c && c ≤ '9' then some (some (c.toNat - 48), rest)
    else some (none, c :: rest)
  | [] => some (none, [])

/-- The indicators of a header, in either order. -/
def indicators? (cs : List Char) : Option (Header × List Char) :=
  match chomping? cs with
  | some (chomping, cs) => (increment? cs).map fun (increment, cs) => (⟨chomping, increment⟩, cs)
  | none =>
    (increment? cs).map fun (increment, cs) =>
      match increment, chomping? cs with
      | some _, some (chomping, cs) => (⟨chomping, increment⟩, cs)
      | _, _ => (⟨.clip, increment⟩, cs)

def header? (c : Cursor) : Option (Header × Cursor) :=
  (indicators? c.rest).bind fun (header, rest) =>
    (c.skipTo (c.rest.length - rest.length)).skipLineEnd?.map (header, ·)

/-- Passes indentation and empty lines: their breaks, the deepest indentation seen, and the rest.
Without an indentation given, every space is taken for one. -/
def breaks (indent : Option Nat) :
    Nat → List Char → Nat → Cursor → Option (List Char × Nat × Cursor)
  | 0, _, _, _ => none
  | fuel + 1, seen, deepest, c =>
    let spaces := (c.rest.takeWhile (· == ' ')).length
    let c := c.skipTo (match indent with
      | some n => min spaces (n - c.column)
      | none => spaces)
    let deepest := max deepest c.column
    let inIndent := match indent with
      | some n => c.column < n
      | none => true
    if inIndent && c.rest.head? == some '\t' then none
    else
      match c.readBreak with
      | ([], c) => some (seen, deepest, c)
      | (b, c) => breaks indent fuel (seen ++ b) deepest c

def join (folded : Bool) (first further : List Char) (beforeBlank afterBlank : Bool) :
    List Char :=
  if folded && first == ['\n'] && !beforeBlank && !afterBlank then
    if further.isEmpty then [' '] else further
  else first ++ further

def startsBlank (c : Cursor) : Bool :=
  match c.rest with
  | x :: _ => isBlank x
  | [] => false

/-- The lines of a scalar from `text` on; `first` and `further` are the breaks before the next
line and `blank` tells whether the last one began with a blank. -/
def lines (folded : Bool) (chomping : Chomping) (indent : Nat) :
    Nat → List Char → List Char → List Char → Bool → Cursor → Option (List Char × Cursor)
  | 0, _, _, _, _, _ => none
  | fuel + 1, text, first, further, blank, c =>
    if c.column == indent && !c.rest.isEmpty then
      let starts := startsBlank c
      let (line, next) := c.span fun x => !isBreak x
      let text := text ++ join folded first further blank starts ++ line
      let (first, next) := next.readBreak
      (breaks (some indent) (next.rest.length + 1) [] 0 next).bind fun (further, _, next) =>
        lines folded chomping indent fuel text first further starts next
    else
      match chomping with
      | .strip => some (text, c)
      | .clip => some (text ++ first, c)
      | .keep => some (text ++ first ++ further, c)

/-- A scalar inside a block that starts at column `floor`; it is itself indented by more. -/
def scan (folded : Bool) (floor : Nat) (c : Cursor) : Option (List Char × Cursor) :=
  (header? c.skip).bind fun (header, c) =>
    let given := header.increment.map fun n => floor - 1 + n
    (breaks given (c.rest.length + 1) [] 0 c).bind fun (further, deepest, c) =>
      let indent := given.getD (max deepest (max floor 1))
      lines folded header.chomping indent (c.rest.length + 1) [] [] further false c

end TemplateRouter.Yaml.Block
