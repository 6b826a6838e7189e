import TemplateRouter.Yaml.Tag
import TemplateRouter.Yaml.Scalar.Plain
import TemplateRouter.Yaml.Scalar.Quoted
import TemplateRouter.Yaml.Scalar.Block
/-
From a text to its tokens: indentation becomes block starts and ends, and a key is recognised by
the colon that comes after it on its line.
-/
namespace TemplateRouter.Yaml

/-- Where a key may have started, for which no colon has been seen yet. -/
structure OpenKey where
  required : Bool
  token : Nat
  start : Cursor

/-- How far a text has been taken apart. `floor` is the first column inside the innermost block,
and there is one place for an open key in each flow around the cursor and one outside. -/
structure Layout where
  cursor : Cursor
  tokens : List Token := []
  count : Nat := 0
  floor : Nat := 0
  outerFloors : List Nat := []
  openKey : Option OpenKey := none
  outerKeys : List (Option OpenKey) := []
  keyAllowed : Bool := true

namespace Layout

def inFlow (s : Layout) : Bool := !s.outerKeys.isEmpty

/-- The latest token comes first. -/
def push (t : Token) (s : Layout) : Layout :=
  { s with tokens := t :: s.tokens, count := s.count + 1 }

def insertAt (position : Nat) (t : Token) (s : Layout) : Layout :=
  let later := s.count - position
  { s with tokens := s.tokens.take later ++ t :: s.tokens.drop later, count := s.count + 1 }

/-- Ends the blocks that are indented by more than the given floor allows. -/
def unroll (floor : Nat) (s : Layout) : Layout :=
  if s.inFlow then s
  else
    let closed := (s.floor :: s.outerFloors).takeWhile (· > floor)
    match (s.floor :: s.outerFloors).drop closed.length with
    | [] => { s with floor := 0, outerFloors := [] }
    | f :: outer =>
      closed.foldl (fun s _ => s.push .blockEnd) { s with floor := f, outerFloors := outer }

/-- Starts a block at a column, unless it goes on with one. -/
def roll (column : Nat) (position : Nat) (t : Token) (s : Layout) : Layout :=
  if !s.inFlow && s.floor ≤ column then
    insertAt position t { s with floor := column + 1, outerFloors := s.floor :: s.outerFloors }
  else s

/-- Gives up the open key; one that had to be a key is an error. -/
def dropKey (s : Layout) : Option Layout :=
  if s.openKey.any OpenKey.required then none else some { s with openKey := none }

def noteKey (s : Layout) : Option Layout :=
  if s.keyAllowed then
    s.dropKey.map fun s =>
      { s with openKey := some ⟨!s.inFlow && s.floor == s.cursor.column + 1, s.count, s.cursor⟩ }
  else some s

/-- A key and its colon are on one line, and no more than 1024 bytes apart. -/
def isStale (c : Cursor) (k : OpenKey) : Bool :=
  k.start.line < c.line || k.start.index + 1024 < c.index

def freshKey (c : Cursor) (k : Option OpenKey) : Option (Option OpenKey) :=
  match k with
  | none => some none
  | some k => if isStale c k then (if k.required then none else some none) else some (some k)

def dropStaleKeys (s : Layout) : Option Layout :=
  (freshKey s.cursor s.openKey).bind fun k =>
    (s.outerKeys.mapM (freshKey s.cursor)).map fun ks => { s with openKey := k, outerKeys := ks }

/-- Passes byte order marks at the front of lines, blanks, comments and line breaks. -/
def skipSpace : Nat → Layout → Layout
  | 0, s => s
  | fuel + 1, s =>
    let tabs := s.inFlow || !s.keyAllowed
    let c := (s.cursor.skipMark.skipWhile fun x => x == ' ' || (tabs && x == '\t')).skipComment
    match c.readBreak with
    | ([], c) => { s with cursor := c }
    | (_, c) => skipSpace fuel { s with cursor := c, keyAllowed := s.keyAllowed || !s.inFlow }

/-- Passes one character that is a token by itself. -/
def single (t : Token) (keyAllowed : Bool) (s : Layout) : Layout :=
  { s.push t with cursor := s.cursor.skip, keyAllowed }

def closeAll (s : Layout) : Option Layout :=
  (s.unroll 0).dropKey.map fun s => { s with keyAllowed := false }

def finish (s : Layout) : Option Layout :=
  let c := s.cursor
  let c := if c.column == 0 then c else { c with line := c.line + 1, column := 0 }
  (closeAll { s with cursor := c }).map (push .streamEnd)

def directive (s : Layout) : Option Layout :=
  s.closeAll.bind fun s =>
    (Directive.scan s.cursor).map fun (t, c) => { s.push t with cursor := c }

def documentMark (t : Token) (s : Layout) : Option Layout :=
  s.closeAll.map fun s => { s.push t with cursor := s.cursor.skipTo 3 }

def flowStart (t : Token) (s : Layout) : Option Layout :=
  s.noteKey.map fun s =>
    single t true { s with openKey := none, outerKeys := s.openKey :: s.outerKeys }

def flowEnd (t : Token) (s : Layout) : Option Layout :=
  s.dropKey.map fun s =>
    match s.outerKeys with
    | [] => single t false s
    | k :: ks => single t false { s with openKey := k, outerKeys := ks }

def flowEntry (s : Layout) : Option Layout := s.dropKey.map (single .flowEntry true)

/-- Starts a block for an indicator at the cursor, where one may stand. -/
def openBlock (t : Token) (s : Layout) : Option Layout :=
  if s.inFlow then some s
  else if s.keyAllowed then some (s.roll s.cursor.column s.count t)
  else none

def blockEntry (s : Layout) : Option Layout :=
  (s.openBlock .blockSequenceStart).bind fun s => s.dropKey.map (single .blockEntry true)

def explicitKey (s : Layout) : Option Layout :=
  (s.openBlock .blockMappingStart).bind fun s =>
    s.dropKey.map fun s => single .key (!s.inFlow) s

/-- A colon makes a key of what is open, or comes after a key of more than one line. -/
def value (s : Layout) : Option Layout :=
  match s.openKey with
  | some k =>
    some <| single .value false <|
      (insertAt k.token .key { s with openKey := none }).roll k.start.column k.token
        .blockMappingStart
  | none => (s.openBlock .blockMappingStart).map fun s => single .value (!s.inFlow) s

def keyable (token : Option (Token × Cursor)) (s : Layout) : Option Layout :=
  s.noteKey.bind fun s =>
    token.map fun (t, c) => { s.push t with cursor := c, keyAllowed := false }

def plain (s : Layout) : Option Layout :=
  s.noteKey.bind fun s =>
    (Plain.scan s.inFlow s.floor s.cursor).map fun (text, broken, c) =>
      { s.push (.scalar text true) with cursor := c, keyAllowed := broken }

def quoted (quote : Char) (s : Layout) : Option Layout :=
  s.keyable ((Quoted.scan quote s.cursor).map fun (text, c) => (.scalar text false, c))

def block (folded : Bool) (s : Layout) : Option Layout :=
  s.dropKey.bind fun s =>
    (Block.scan folded s.floor s.cursor).map fun (text, c) =>
      { s.push (.scalar text false) with cursor := c, keyAllowed := true }

/-- The characters that start no plain scalar, or only before another character. -/
def isIndicator (c : Char) : Bool :=
  isFlowIndicator c || ['-', '?', ':', '#', '&', '*', '!', '|', '>', '\'', '"', '%', '@',
    '\x60'].contains c

def startsPlain (flow : Bool) : List Char → Bool
  | '-' :: rest => !atBlank rest
  | '?' :: rest | ':' :: rest => !flow && !atSpace rest
  | c :: _ => !(isBlank c || isBreak c || isIndicator c)
  | [] => false
where
  atBlank : List Char → Bool
    | c :: _ => isBlank c
    | [] => false

def token (s : Layout) : Option Layout :=
  let c := s.cursor
  if c.column == 0 && c.rest.head? == some '%' then s.directive
  else if c.atMark '-' then s.documentMark .documentStart
  else if c.atMark '.' then s.documentMark .documentEnd
  else match c.rest with
    | '[' :: _ => s.flowStart .flowSequenceStart
    | '{' :: _ => s.flowStart .flowMappingStart
    | ']' :: _ => s.flowEnd .flowSequenceEnd
    | '}' :: _ => s.flowEnd .flowMappingEnd
    | ',' :: _ => s.flowEntry
    | '*' :: _ => s.keyable ((Anchor.scan c).map fun (name, c) => (.reference name, c))
    | '&' :: _ => s.keyable ((Anchor.scan c).map fun (name, c) => (.anchor name, c))
    | '!' :: _ => s.keyable ((TagName.scan s.inFlow c).map fun (name, c) => (.tag name, c))
    | '\'' :: _ => s.quoted '\''
    | '"' :: _ => s.quoted '"'
    | x :: rest =>
      if x == '-' && atSpace rest then s.blockEntry
      else if x == '?' && (s.inFlow || atSpace rest) then s.explicitKey
      else if x == ':' && (s.inFlow || atSpace rest) then s.value
      else if x == '|' && !s.inFlow then s.block false
      else if x == '>' && !s.inFlow then s.block true
      else if startsPlain s.inFlow c.rest then s.plain
      else none
    | [] => none

/-- Goes to the next token and settles the layout before it. -/
def advance (s : Layout) : Option Layout :=
  (skipSpace (s.cursor.rest.length + 1) s).dropStaleKeys.map fun s => s.unroll (s.cursor.column + 1)

def run : Nat → Layout → Option (List Token)
  | 0, _ => none
  | fuel + 1, s =>
    s.advance.bind fun s =>
      if s.cursor.rest.isEmpty then s.finish.map fun s => s.tokens.reverse
      else s.token.bind (run fuel)

end Layout

def Token.scan (text : List Char) : Option (List Token) :=
  if text.all isPrintable then Layout.run (text.length + 1) { cursor := ⟨text, 0, 0, 0⟩ } else none

end TemplateRouter.Yaml
