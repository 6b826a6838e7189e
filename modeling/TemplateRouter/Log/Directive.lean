import TemplateRouter.Event
import TemplateRouter.Number.Decimal
import TemplateRouter.Regex
import TemplateRouter.Text.Property.Letters
import TemplateRouter.Text.Utf8
/-
Directives: rules that say down to which level the events of a target are shown.

Their form is found without the blanks around them, but the texts are cut from the whole at the same
numbers of bytes. So blanks in front move the texts, and one may be cut inside a character. Such a
directive counts as malformed, though the parser this one follows would stop there.
-/
namespace TemplateRouter.Log

open Text

/-- The gravest to the least grave level shown; `none` shows nothing. -/
abbrev Threshold := Option Level

namespace Threshold

def rank (t : Threshold) : Nat := (t.map Level.rank).getD 0

def admits (t : Threshold) (l : Level) : Bool := l.rank ≤ rank t

def ofNumber? : Nat → Option Threshold
  | 0 => some none
  | 1 => some (some .error)
  | 2 => some (some .warn)
  | 3 => some (some .info)
  | 4 => some (some .debug)
  | 5 => some (some .trace)
  | _ => none

/-- A level by number or by name, in any case; no text at all is the gravest. -/
def read? (s : List Char) : Option Threshold :=
  match (Numeral.read? 10 (Nat.pow 2 64) s).bind ofNumber? with
  | some t => some t
  | none =>
    match String.ofList (s.map Char.toLower) with
    | "" | "error" => some (some .error)
    | "warn" => some (some .warn)
    | "info" => some (some .info)
    | "debug" => some (some .debug)
    | "trace" => some (some .trace)
    | "off" => some none
    | _ => none

end Threshold

structure Directive where
  target : Option (List Char) := none
  fields : List (List Char) := []
  threshold : Threshold := some .trace
  deriving DecidableEq

namespace Directive

/-- Where the reading of a directive stands, with the bytes of the text it is in. -/
inductive Place where
  | start
  | head (text : Bytes)
  | span (text : Bytes)
  | field (text : Bytes)
  | fieldsEnd
  | afterSpan
  | level (text : Bytes)

/-- A directive that is being read; one that names a span applies to no event. -/
structure Draft where
  place : Place := .start
  directive : Directive := {}
  spanned : Bool := false

def startsDirective (c : Char) : Bool :=
  c == '-' || c == ':' || c == '_' || Property.isAlphanumeric c

/-- A plus sign and a number, which may be infinite or none. -/
def isPlusNumber : List Char → Bool
  | '+' :: s =>
    (Decimal.read? s).isSome ||
      ["inf", "infinity", "nan"].contains (String.ofList (s.map Char.toLower))
  | _ => false

variable [Regex.Properties]

/-- A pattern that does not depend on what a word is in Unicode. -/
def isPattern (s : List Char) : Bool :=
  match Regex.compile {} (String.ofList s) with
  | .ok r => r.root.looks.all fun l => l.words? != some .word
  | .error _ => false

/-- What a field may be asked to be: a number or a pattern. Numbers without a plus sign and truth
values are patterns as well. -/
def isFieldValue (s : List Char) : Bool := isPlusNumber s || isPattern s

/-- Adds a field; one that asks for a value concerns spans alone. A second equals sign ends the
value. -/
def addField (d : Draft) (text : List Char) : Option Draft :=
  match text, splitOn '=' text with
  | [], _ | _, [] => none
  | _, name :: values =>
    if values.head?.all isFieldValue then
      some { d with
        directive := { d.directive with fields := d.directive.fields ++ [name] }
        spanned := d.spanned || !values.isEmpty }
    else none

/-- Reads a character: its mark decides what comes next, and `bytes` belong to the text read. -/
def step (d : Draft) : Char × Bytes → Option Draft
  | (mark, bytes) =>
    let named (text : Bytes) (place : Place) : Option Draft :=
      (Utf8.decode? text).map fun target =>
        { d with place, directive := { d.directive with target := some target.toList } }
    match d.place with
    | .start =>
      if mark = '[' then some { d with place := .span [] }
      else if startsDirective mark then some { d with place := .head bytes }
      else none
    | .head text =>
      if mark = '=' then named text (.level [])
      else if mark = '[' then named text (.span [])
      else some { d with place := .head (text ++ bytes) }
    | .span text =>
      if mark = ']' then
        (Utf8.decode? text).map fun _ => { d with place := .afterSpan, spanned := true }
      else if mark = '{' then
        (Utf8.decode? text).map fun name =>
          { d with place := .field [], spanned := d.spanned || !name.isEmpty }
      else some { d with place := .span (text ++ bytes) }
    | .field text =>
      if mark = '}' then
        (Utf8.decode? text).bind fun text =>
          (addField d text.toList).map fun d => { d with place := .fieldsEnd }
      else some { d with place := .field (text ++ bytes) }
    | .fieldsEnd => if mark = ']' then some { d with place := .afterSpan } else none
    | .afterSpan => if mark = '=' then some { d with place := .level [] } else none
    | .level text => some { d with place := .level (text ++ bytes) }

/-- The directive that a draft and the bytes left stand for: `some none` is one that applies to no
event. -/
def finish (last : Bytes) (d : Draft) : Option (Option Directive) :=
  let applied (r : Directive) : Option Directive := if d.spanned then none else some r
  match d.place with
  | .head text =>
    (Utf8.decode? (text ++ last)).map fun text =>
      match Threshold.read? text.toList with
      | some t => some { d.directive with threshold := t }
      | none => some { d.directive with target := some text.toList }
  | .level text =>
    (Utf8.decode? (text ++ last)).bind fun text =>
      if text.isEmpty then some (applied d.directive)
      else (Threshold.read? text.toList).map fun t =>
        applied { d.directive with threshold := t }
  | .afterSpan => some (applied d.directive)
  | _ => none

/-- Each character with as many bytes as it takes, and the bytes that are left. -/
def cut : List Char → Bytes → List (Char × Bytes) × Bytes
  | [], bytes => ([], bytes)
  | c :: cs, bytes =>
    let (pieces, left) := cut cs (bytes.drop c.utf8Size)
    ((c, bytes.take c.utf8Size) :: pieces, left)

def parse? (s : List Char) : Option (Option Directive) :=
  let (pieces, left) := cut (trim s) (Utf8.encode (String.ofList s))
  (pieces.foldlM step ({} : Draft)).bind (finish left)

def concerns (d : Directive) (e : Event) : Bool :=
  (match d.target with
    | some t => t.isPrefixOf e.target.toList
    | none => true) &&
  d.fields.all fun f => e.fieldNames.contains (String.ofList f)

def targetLength (d : Directive) : Nat :=
  match d.target with
  | some t => t.length + 1
  | none => 0

/-- More specific directives come first: a longer target, then more fields. Of two that are
equally specific, the one with the greater fields does. -/
def precedes (a b : Directive) : Bool :=
  targetLength b < targetLength a ||
    (targetLength a == targetLength b &&
      (b.fields.length < a.fields.length ||
        (a.fields.length == b.fields.length && decide (b.fields < a.fields))))

end Directive

end TemplateRouter.Log
