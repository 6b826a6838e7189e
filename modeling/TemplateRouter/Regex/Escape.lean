import TemplateRouter.Regex.Flags
/-
Escapes: what a backslash and the characters after it stand for.
-/
namespace TemplateRouter.Regex

/-- The characters with a meaning of their own somewhere in a regular expression. -/
def isMeta (c : Char) : Bool :=
  "\\.+*?()|[]\x7b\x7d^$#&-~".toList.contains c

/-- Writes a text so that it matches itself. -/
def escapeText (s : List Char) : List Char :=
  s.flatMap fun c => if isMeta c then ['\\', c] else [c]

@[simp] theorem escapeText_nil : escapeText [] = [] := rfl

theorem escapeText_cons (c : Char) (s : List Char) :
    escapeText (c :: s) = (if isMeta c then ['\\', c] else [c]) ++ escapeText s := rfl

@[simp] theorem escapeText_append (s t : List Char) :
    escapeText (s ++ t) = escapeText s ++ escapeText t := by
  simp [escapeText]

inductive Escaped where
  | literal (c : Char)
  | look (l : Look)
  | set (s : CharSet)

namespace Escaped

def charOfCode? (n : Nat) : Option Char :=
  if h : n.isValidChar then some (Char.ofNatAux n h) else none

/-- Reads `count` hexadecimal digits, blanks between them allowed in verbose mode. -/
def hexDigits (f : Flags) (value : Nat) : Nat → List Char → Except SyntaxError (Nat × List Char)
  | 0, cs => .ok (value, cs)
  | _ + 1, [] => .error .escapeUnfinished
  | n + 1, c :: cs =>
    match Text.hexDigit? c with
    | some d => hexDigits f (16 * value + d) n (f.skip cs)
    | none => .error .escapeInvalid

def hexBraced (f : Flags) (value : Nat) (any : Bool) : Nat → List Char →
    Except SyntaxError (Nat × List Char)
  | 0, _ => .error .escapeUnfinished
  | fuel + 1, cs =>
    match f.skip cs with
    | [] => .error .escapeUnfinished
    | '}' :: rest => if any then .ok (value, f.skip rest) else .error .escapeInvalid
    | c :: rest =>
      match Text.hexDigit? c with
      | some d => hexBraced f (16 * value + d) true fuel rest
      | none => .error .escapeInvalid

/-- A character by its number. Two digits alone stand for a byte without Unicode, and a byte
beyond ASCII is only part of a character. -/
def hexadecimal (f : Flags) (count : Nat) (cs : List Char) :
    Except SyntaxError (Escaped × List Char) :=
  let (digits, isByte) := match f.skip cs with
    | '{' :: rest => (hexBraced f 0 false (rest.length + 1) rest, false)
    | rest => (hexDigits f 0 count rest, count == 2 && !f.unicode)
  digits.bind fun (n, rest) =>
    match charOfCode? n with
    | some c => if isByte && 128 ≤ n then .error .notText else .ok (literal c, rest)
    | none => .error .escapeInvalid

def octal (cs : List Char) : Escaped × List Char :=
  let digits := (cs.take 3).takeWhile fun c => '0' ≤ c && c ≤ '7'
  let value := digits.foldl (fun n c => 8 * n + (c.toNat - 48)) 0
  (literal (Char.ofNat value), cs.drop digits.length)

def isBoundaryNameChar (c : Char) : Bool := c.isAlpha || c == '-'

/-- The name in `\b{start}`: none if the brace opens a count instead. -/
def boundaryName (f : Flags) (cs : List Char) : Except SyntaxError (Option (List Char × List Char)) :=
  match f.skip cs with
  | [] => .error .escapeUnfinished
  | c :: rest =>
    if isBoundaryNameChar c then go [] (rest.length + 1) (c :: rest) else .ok none
where
  go (name : List Char) : Nat → List Char → Except SyntaxError (Option (List Char × List Char))
    | 0, _ => .error .escapeUnfinished
    | _ + 1, [] => .error .escapeUnfinished
    | fuel + 1, c :: rest =>
      if isBoundaryNameChar c then go (c :: name) fuel (f.skip rest)
      else if c = '}' then .ok (some (name.reverse, rest))
      else .error .escapeInvalid

/-- A word boundary, of a kind that a braced name may tell. -/
def boundary (f : Flags) (cs : List Char) : Except SyntaxError (Escaped × List Char) :=
  match cs with
  | '{' :: rest =>
    (boundaryName f rest).bind fun
      | none => .ok (look (.wordBoundary f.wordSet), cs)
      | some (name, rest) =>
        match String.ofList name with
        | "start" => .ok (look (.wordStart f.wordSet), rest)
        | "end" => .ok (look (.wordEnd f.wordSet), rest)
        | "start-half" => .ok (look (.wordStartHalf f.wordSet), rest)
        | "end-half" => .ok (look (.wordEndHalf f.wordSet), rest)
        | _ => .error .escapeInvalid
  | _ => .ok (look (.wordBoundary f.wordSet), cs)

def divide? (mark : List Char) : List Char → Option (List Char × List Char)
  | [] => none
  | c :: cs =>
    if mark.isPrefixOf (c :: cs) then some ([], (c :: cs).drop mark.length)
    else (divide? mark cs).map fun (before, after) => (c :: before, after)

/-- A property in braces: its name, its value if it has one, and whether it must not have that. -/
def propertyParts (text : List Char) : List Char × Option (List Char) × Bool :=
  match divide? ['!', '='] text with
  | some (name, value) => (name, some value, true)
  | none =>
    match (divide? [':'] text).or (divide? ['='] text) with
    | some (name, value) => (name, some value, false)
    | none => (text, none, false)

def braced (f : Flags) (text : List Char) : Nat → List Char →
    Except SyntaxError (List Char × List Char)
  | 0, _ => .error .escapeUnfinished
  | fuel + 1, cs =>
    match f.skip cs with
    | [] => .error .escapeUnfinished
    | '}' :: rest => .ok (text.reverse, rest)
    | c :: rest => braced f (c :: text) fuel rest

/-- A class of characters by a property: one letter, or more in braces. -/
def property [Properties] (f : Flags) (negated : Bool) (cs : List Char) :
    Except SyntaxError (Escaped × List Char) :=
  match f.skip cs with
  | [] => .error .escapeUnfinished
  | '\\' :: _ => .error .escapeInvalid
  | '{' :: rest =>
    (braced f [] (rest.length + 1) rest).bind fun (text, rest) =>
      let (name, value, denied) := propertyParts text
      (f.propertySet (negated != denied) name value).map fun s => (set s, rest)
  | c :: rest => (f.propertySet negated [c] none).map fun s => (set s, f.skip rest)

def read [Properties] (f : Flags) : List Char → Except SyntaxError (Escaped × List Char)
  | [] => .error .escapeUnfinished
  | c :: cs =>
    if isMeta c then .ok (literal c, cs)
    else if c.isDigit then
      if !f.octal then .error .backreference
      else if c ≤ '7' then .ok (octal (c :: cs))
      else .error .escapeUnknown
    else match c with
      | 'x' => hexadecimal f 2 cs
      | 'u' => hexadecimal f 4 cs
      | 'U' => hexadecimal f 8 cs
      | 'a' => .ok (literal '\x07', cs)
      | 'f' => .ok (literal '\x0c', cs)
      | 't' => .ok (literal '\t', cs)
      | 'n' => .ok (literal '\n', cs)
      | 'r' => .ok (literal '\r', cs)
      | 'v' => .ok (literal '\x0b', cs)
      | 'A' => .ok (look .textStart, cs)
      | 'z' => .ok (look .textEnd, cs)
      | 'b' => boundary f cs
      | 'p' => property f false cs
      | 'P' => property f true cs
      | 'B' => .ok (look (.notWordBoundary f.wordSet), cs)
      | '<' => .ok (look (.wordStart f.wordSet), cs)
      | '>' => .ok (look (.wordEnd f.wordSet), cs)
      | _ =>
        if c.isAlpha then (f.escapedClass c).map fun s => (set s, cs)
        else if c.toNat < 128 then .ok (literal c, cs)
        else .error .escapeUnknown

/-- A meta character after a backslash stands for itself. -/
theorem read_meta [Properties] (f : Flags) {c : Char} (h : isMeta c = true) (cs : List Char) :
    read f (c :: cs) = .ok (literal c, cs) := by
  simp [read, h]

end Escaped

end TemplateRouter.Regex
