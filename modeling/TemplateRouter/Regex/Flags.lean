import TemplateRouter.Regex.Node
/-
Flags of a regular expression and what single symbols mean under them.
-/
namespace TemplateRouter.Regex

structure Flags where
  ignoreCase : Bool := false
  multiLine : Bool := false
  dotMatchesNewLine : Bool := false
  swapGreed : Bool := false
  verbose : Bool := false
  octal : Bool := false
  unicode : Bool := true
  crlf : Bool := false
  deriving Repr, DecidableEq, Inhabited

inductive SyntaxError where
  | groupUnclosed
  | groupUnopened
  | groupNameInvalid
  | groupNameDuplicate
  | flagUnknown
  | flagRepeated
  | flagDangling
  | lookAroundUnsupported
  | repetitionMissing
  | countInvalid
  | countUnclosed
  | escapeUnfinished
  | escapeUnknown
  | escapeInvalid
  | propertyUnknown
  | propertyNotAllowed
  | backreference
  | classUnclosed
  | classRangeInvalid
  | classEscapeInvalid
  | notText
  | nestedTooDeep
  deriving Repr, DecidableEq, Inhabited

namespace Flags

def fold (f : Flags) (s : CharSet) : CharSet :=
  if f.ignoreCase then if f.unicode then .folded s else .asciiFolded s else s

def literal (f : Flags) (c : Char) : Node := .set (f.fold (.singleton c))

def wordSet (f : Flags) : CharSet := if f.unicode then .word else .asciiWord

/-- The complement of a set; without Unicode it would match part of a character. -/
def complement (f : Flags) (s : CharSet) : Except SyntaxError CharSet :=
  if f.unicode then .ok (.compl s) else .error .notText

/-- The dot: every character but the ones that end a line, unless those are included. -/
def dot (f : Flags) : Except SyntaxError CharSet :=
  if f.dotMatchesNewLine then f.complement .none
  else if f.crlf then f.complement (.union (.singleton '\r') (.singleton '\n'))
  else f.complement (.singleton '\n')

def caret (f : Flags) : Look := if f.multiLine then .lineStart f.crlf else .textStart

def dollar (f : Flags) : Look := if f.multiLine then .lineEnd f.crlf else .textEnd

/-- The characters that have a property, or with `negated` all others. -/
def propertySet [Properties] (f : Flags) (negated : Bool) (name : List Char)
    (value : Option (List Char)) : Except SyntaxError CharSet :=
  if f.unicode then
    match Properties.property? name value with
    | some s => if negated then f.complement (f.fold s) else .ok (f.fold s)
    | none => .error .propertyUnknown
  else .error .propertyNotAllowed

/-- The classes `d`, `s` and `w`, and their complements in upper case. -/
def escapedClass (f : Flags) : Char → Except SyntaxError CharSet
  | 'd' => .ok (if f.unicode then .digit else .range '0' '9')
  | 's' => .ok (if f.unicode then .blank else .ofRanges [('\t', '\r'), (' ', ' ')])
  | 'w' => .ok f.wordSet
  | 'D' => f.complement .digit
  | 'S' => f.complement .blank
  | 'W' => f.complement .word
  | _ => .error .escapeUnknown

def set (f : Flags) (letter : Char) (on : Bool) : Except SyntaxError Flags :=
  match letter with
  | 'i' => .ok { f with ignoreCase := on }
  | 'm' => .ok { f with multiLine := on }
  | 's' => .ok { f with dotMatchesNewLine := on }
  | 'U' => .ok { f with swapGreed := on }
  | 'u' => .ok { f with unicode := on }
  | 'R' => .ok { f with crlf := on }
  | 'x' => .ok { f with verbose := on }
  | _ => .error .flagUnknown

/-- Drops blanks, and comments from a number sign to the end of the line. -/
def dropBlanks (inComment : Bool) : List Char → List Char
  | [] => []
  | c :: cs =>
    if inComment then dropBlanks (c != '\n') cs
    else if Text.isBlank c then dropBlanks false cs
    else if c = '#' then dropBlanks true cs
    else c :: cs

/-- What stands next: in verbose mode, blanks and comments are passed over. -/
def skip (f : Flags) (cs : List Char) : List Char :=
  if f.verbose then dropBlanks false cs else cs

end Flags

end TemplateRouter.Regex
