import TemplateRouter.Text.Utf8
/-
Reading a YAML text: the tokens it is cut into, positions in it, and the space between the words of
a scalar, which line folding may shorten.
-/
namespace TemplateRouter.Yaml

/-- A tag as written: a handle that a directive may define, and the rest of the name. -/
structure TagName where
  handle : List Char
  suffix : Bytes
  deriving Repr, DecidableEq

inductive Token where
  | streamEnd
  | version (major minor : Nat)
  | tagHandle (handle : List Char) (start : Bytes)
  | documentStart
  | documentEnd
  | blockSequenceStart
  | blockMappingStart
  | blockEnd
  | blockEntry
  | flowSequenceStart
  | flowSequenceEnd
  | flowMappingStart
  | flowMappingEnd
  | flowEntry
  | key
  | value
  | reference (name : List Char)
  | anchor (name : List Char)
  | tag (name : TagName)
  | scalar (text : List Char) (plain : Bool)
  deriving Repr, DecidableEq

/-- What is left of a text, and where that begins. The index counts the bytes of UTF-8, the column
characters. -/
structure Cursor where
  rest : List Char
  index : Nat := 0
  line : Nat := 0
  column : Nat := 0
  deriving Repr, Inhabited

/-- The characters a text may hold: no controls but tabs and line breaks. -/
def isPrintable (c : Char) : Bool :=
  let n := c.toNat
  n == 9 || n == 10 || n == 13 || (0x20 ≤ n && n ≤ 0x7e) || n == 0x85 ||
    (0xa0 ≤ n && n != 0xfffe && n != 0xffff)

def isBreak (c : Char) : Bool :=
  c == '\n' || c == '\r' || c == '\x85' || c == '\u2028' || c == '\u2029'

def isBlank (c : Char) : Bool := c == ' ' || c == '\t'

def isWordChar (c : Char) : Bool :=
  ('0' ≤ c && c ≤ '9') || ('a' ≤ c && c ≤ 'z') || ('A' ≤ c && c ≤ 'Z') || c == '_' || c == '-'

def isFlowIndicator (c : Char) : Bool :=
  c == ',' || c == '[' || c == ']' || c == '{' || c == '}'

/-- Whether a text is at an end or starts with a character of some kind. -/
def endsOr (p : Char → Bool) : List Char → Bool
  | [] => true
  | c :: _ => p c

def atLineEnd (cs : List Char) : Bool := endsOr isBreak cs

def atSpace (cs : List Char) : Bool := endsOr (fun c => isBlank c || isBreak c) cs

def width (cs : List Char) : Nat := (cs.map Char.utf8Size).foldr (· + ·) 0

namespace Cursor

def skip (c : Cursor) : Cursor :=
  { c with rest := c.rest.tail, index := c.index + width (c.rest.take 1), column := c.column + 1 }

def skipTo (c : Cursor) (n : Nat) : Cursor :=
  { c with rest := c.rest.drop n, index := c.index + width (c.rest.take n), column := c.column + n }

def span (p : Char → Bool) (c : Cursor) : List Char × Cursor :=
  let taken := c.rest.takeWhile p
  (taken, c.skipTo taken.length)

def skipWhile (p : Char → Bool) (c : Cursor) : Cursor := (c.span p).2

/-- Passes a line break, if there is one, and gives it: a newline for each of the short ones. -/
def readBreak (c : Cursor) : List Char × Cursor :=
  match c.rest with
  | '\r' :: '\n' :: rest => (['\n'], ⟨rest, c.index + 2, c.line + 1, 0⟩)
  | b :: rest =>
    if isBreak b then
      (if b == '\u2028' || b == '\u2029' then [b] else ['\n'],
        ⟨rest, c.index + b.utf8Size, c.line + 1, 0⟩)
    else ([], c)
  | [] => ([], c)

def skipBreak (c : Cursor) : Cursor := c.readBreak.2

/-- Passes a byte order mark at the front of a line; it takes a column. -/
def skipMark (c : Cursor) : Cursor :=
  match c.rest with
  | '\ufeff' :: _ => if c.column == 0 then c.skip else c
  | _ => c

def skipComment (c : Cursor) : Cursor :=
  match c.rest with
  | '#' :: _ => c.skipWhile fun x => !isBreak x
  | _ => c

/-- Passes blanks and a comment up to the end of the line, and the line break. -/
def skipLineEnd? (c : Cursor) : Option Cursor :=
  let c := (c.skipWhile isBlank).skipComment
  if atLineEnd c.rest then some c.skipBreak else none

/-- Whether three of a character stand alone at the front of a line. -/
def atMark (mark : Char) (c : Cursor) : Bool :=
  c.column == 0 &&
    match c.rest with
    | x :: y :: z :: rest => x == mark && y == mark && z == mark && atSpace rest
    | _ => false

def atDocumentMark (c : Cursor) : Bool := c.atMark '-' || c.atMark '.'

end Cursor

/-- Blanks on one line, or a first line break and the further ones. -/
structure Gap where
  blanks : List Char := []
  broken : Bool := false
  first : List Char := []
  further : List Char := []

namespace Gap

/-- A single newline is folded to a space, and of several the first is dropped. -/
def text (g : Gap) : List Char :=
  if !g.broken then g.blanks
  else if g.first == ['\n'] then (if g.further.isEmpty then [' '] else g.further)
  else g.first ++ g.further

/-- Passes blanks and line breaks; tabs may not indent a line to less than `floor`. -/
def scan (floor : Nat) : Nat → Gap → Cursor → Option (Gap × Cursor)
  | 0, _, _ => none
  | fuel + 1, g, c =>
    match c.rest with
    | [] => some (g, c)
    | x :: _ =>
      if isBlank x then
        if g.broken && c.column < floor && x == '\t' then none
        else scan floor fuel (if g.broken then g else { g with blanks := g.blanks ++ [x] }) c.skip
      else if isBreak x then
        let (b, c) := c.readBreak
        if g.broken then scan floor fuel { g with further := g.further ++ b } c
        else scan floor fuel { g with blanks := [], broken := true, first := b } c
      else some (g, c)

end Gap

end TemplateRouter.Yaml
