import TemplateRouter.Yaml.Cursor
import TemplateRouter.Text.Property
/-
Tags, anchors and the directives that come before a document.
-/
namespace TemplateRouter.Yaml

/-- The characters of a tag; some more may stand between angle brackets. -/
def isTagChar (verbatim : Bool) (c : Char) : Bool :=
  isWordChar c || [';', '/', '?', ':', '@', '&', '=', '+', '$', '.', '%', '!', '~', '*', '\'',
    '(', ')'].contains c || (verbatim && (c == ',' || c == '[' || c == ']'))

namespace TagName

def octet? : List Char → Option UInt8
  | '%' :: a :: b :: _ =>
    match Text.hexDigit? a, Text.hexDigit? b with
    | some a, some b => some (UInt8.ofNat (a * 16 + b))
    | _, _ => none
  | _ => none

def width? (b : UInt8) : Option Nat :=
  if b < 0x80 then some 1
  else if b < 0xc0 then none
  else if b < 0xe0 then some 2
  else if b < 0xf0 then some 3
  else if b < 0xf8 then some 4
  else none

/-- The escaped bytes that go on with a character. -/
def continuation? : Nat → Cursor → Option (Bytes × Cursor)
  | 0, c => some ([], c)
  | n + 1, c =>
    (octet? c.rest).bind fun b =>
      if 0x80 ≤ b && b < 0xc0 then
        (continuation? n (c.skipTo 3)).map fun (bs, c) => (b :: bs, c)
      else none

def escaped? (c : Cursor) : Option (Bytes × Cursor) :=
  (octet? c.rest).bind fun b => (width? b).bind fun w =>
    (continuation? (w - 1) (c.skipTo 3)).map fun (bs, c) => (b :: bs, c)

def chars? (verbatim : Bool) : Nat → Cursor → Option (Bytes × Cursor)
  | 0, _ => none
  | fuel + 1, c =>
    match c.rest with
    | [] => some ([], c)
    | x :: _ =>
      if !isTagChar verbatim x then some ([], c)
      else if x == '%' then
        (escaped? c).bind fun (b, c) => (chars? verbatim fuel c).map fun (bs, c) => (b ++ bs, c)
      else (chars? verbatim fuel c.skip).map fun (bs, c) => (UInt8.ofNat x.toNat :: bs, c)

/-- The name goes up to a zero byte. -/
def upToZero (name : Bytes) : Bytes := name.takeWhile (· != 0)

def part? (verbatim : Bool) (c : Cursor) : Option (Bytes × Cursor) :=
  (chars? verbatim (c.rest.length + 1) c).bind fun (name, next) =>
    if next.index == c.index then none else some (upToZero name, next)

/-- A handle at the cursor: an exclamation mark, a word, and perhaps another mark. -/
def handle? (c : Cursor) : Option (List Char × Cursor) :=
  match c.rest with
  | '!' :: _ =>
    let (name, c) := c.skip.span isWordChar
    match c.rest with
    | '!' :: _ => some ('!' :: name ++ ['!'], c.skip)
    | _ => some ('!' :: name, c)
  | _ => none

def isClosed (handle : List Char) : Bool :=
  handle.length > 1 && handle.getLast? == some '!'

/-- A tag with the handle of one mark; with nothing after it the mark itself is the name. -/
def primary (suffix : Bytes) : TagName :=
  if suffix.isEmpty then ⟨[], [33]⟩ else ⟨['!'], suffix⟩

def name? (c : Cursor) : Option (TagName × Cursor) :=
  match c.rest with
  | '!' :: '<' :: _ =>
    (part? true (c.skipTo 2)).bind fun (suffix, c) =>
      if c.rest.head? == some '>' then some (⟨[], suffix⟩, c.skip) else none
  | _ =>
    (handle? c).bind fun (handle, c) =>
      if isClosed handle then (part? false c).map fun (suffix, c) => (⟨handle, suffix⟩, c)
      else
        (chars? false (c.rest.length + 1) c).map fun (suffix, c) =>
          let start := handle.tail.map fun x => UInt8.ofNat x.toNat
          (primary (upToZero (start ++ suffix)), c)

/-- The tag at the cursor; a space, or a comma in a flow, must follow it. -/
def scan (flow : Bool) (c : Cursor) : Option (TagName × Cursor) :=
  (name? c).bind fun (name, c) =>
    if atSpace c.rest || (flow && c.rest.head? == some ',') then some (name, c) else none

end TagName

namespace Anchor

/-- The characters that may follow the name of an anchor or alias. -/
def mayFollow (c : Char) : Bool :=
  isBlank c || isBreak c || ['?', ':', ',', ']', '}', '%', '@', '\x60'].contains c

def scan (c : Cursor) : Option (List Char × Cursor) :=
  let (name, c) := c.skip.span isWordChar
  if !name.isEmpty && endsOr mayFollow c.rest then some (name, c) else none

end Anchor

namespace Directive

def isDigit (c : Char) : Bool := '0' ≤ c && c ≤ '9'

/-- A number of a version, of nine digits at most. -/
def number? (c : Cursor) : Option (Nat × Cursor) :=
  let (digits, c) := c.span isDigit
  if digits.isEmpty || digits.length > 9 then none
  else some (digits.foldl (fun n d => n * 10 + (d.toNat - 48)) 0, c)

def version? (c : Cursor) : Option (Token × Cursor) :=
  (number? (c.skipWhile isBlank)).bind fun (major, c) =>
    match c.rest with
    | '.' :: _ => (number? c.skip).map fun (minor, c) => (.version major minor, c)
    | _ => none

def startsBlank (c : Cursor) : Bool :=
  match c.rest with
  | x :: _ => isBlank x
  | [] => false

def tagHandle? (c : Cursor) : Option (Token × Cursor) :=
  (TagName.handle? (c.skipWhile isBlank)).bind fun (handle, c) =>
    if (TagName.isClosed handle || handle == ['!']) && startsBlank c then
      (TagName.part? true (c.skipWhile isBlank)).bind fun (start, c) =>
        if atSpace c.rest then some (.tagHandle handle start, c) else none
    else none

def scan (c : Cursor) : Option (Token × Cursor) :=
  let (name, c) := c.skip.span isWordChar
  let token :=
    if !atSpace c.rest then none
    else if name == ['Y', 'A', 'M', 'L'] then version? c
    else if name == ['T', 'A', 'G'] then tagHandle? c
    else none
  token.bind fun (token, c) => c.skipLineEnd?.map (token, ·)

end Directive

end TemplateRouter.Yaml
