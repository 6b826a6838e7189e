import TemplateRouter.Json
import TemplateRouter.Text.Property
/-
The written form of JSON: what a text says before numbers and strings are given their values.

Reading a source is a matter of grammar alone. Whether its numbers are in range, its strings are
text and its nesting is bearable is decided when a value is taken from it.
-/
namespace TemplateRouter.Json

structure Numeral where
  negative : Bool
  whole : List Char
  fraction : List Char
  exponent : Option (Bool × List Char)
  deriving Repr, DecidableEq

/-- A character of a string, or a code unit that was escaped by number. -/
inductive StringPiece where
  | char (c : Char)
  | unit (n : Nat)
  deriving Repr, DecidableEq

inductive Source where
  | null
  | bool (b : Bool)
  | number (n : Numeral)
  | string (pieces : List StringPiece)
  | array (items : List Source)
  | object (members : List (List StringPiece × Source))
  deriving Inhabited

namespace Source

def isBlank (c : Char) : Bool := c == ' ' || c == '\n' || c == '\t' || c == '\r'

def skip (cs : List Char) : List Char := cs.dropWhile isBlank

def isDigit (c : Char) : Bool := '0' ≤ c && c ≤ '9'

def digits? (cs : List Char) : Option (List Char × List Char) :=
  if (cs.takeWhile isDigit).isEmpty then none
  else some (cs.takeWhile isDigit, cs.dropWhile isDigit)

/-- Digits without a needless zero at the front. -/
def whole? (cs : List Char) : Option (List Char × List Char) :=
  match digits? cs with
  | some ('0' :: _ :: _, _) => none
  | r => r

def exponent? (cs : List Char) : Option (Bool × List Char × List Char) :=
  match cs with
  | '-' :: rest => (digits? rest).map fun (ds, rest) => (true, ds, rest)
  | '+' :: rest => (digits? rest).map fun (ds, rest) => (false, ds, rest)
  | rest => (digits? rest).map fun (ds, rest) => (false, ds, rest)

def exponentPart? (cs : List Char) : Option (Option (Bool × List Char) × List Char) :=
  match cs with
  | 'e' :: rest | 'E' :: rest =>
    (exponent? rest).map fun (negative, ds, rest) => (some (negative, ds), rest)
  | rest => some (none, rest)

/-- The optional fraction of a numeral; without one it is empty. -/
def fractionPart? (cs : List Char) : Option (List Char × List Char) :=
  match cs with
  | '.' :: rest => digits? rest
  | rest => some ([], rest)

def numeral? (cs : List Char) : Option (Numeral × List Char) :=
  let (negative, cs) := match cs with
    | '-' :: rest => (true, rest)
    | _ => (false, cs)
  (whole? cs).bind fun (whole, cs) =>
    (fractionPart? cs).bind fun (fraction, cs) =>
      (exponentPart? cs).map fun (exponent, cs) => (⟨negative, whole, fraction, exponent⟩, cs)

def codeUnit? : List Char → Option (Nat × List Char)
  | a :: b :: c :: d :: rest =>
    match Text.hexDigit? a, Text.hexDigit? b, Text.hexDigit? c, Text.hexDigit? d with
    | some a, some b, some c, some d => some (((a * 16 + b) * 16 + c) * 16 + d, rest)
    | _, _, _, _ => none
  | _ => none

def escape? : List Char → Option (StringPiece × List Char)
  | '"' :: rest => some (.char '"', rest)
  | '\\' :: rest => some (.char '\\', rest)
  | '/' :: rest => some (.char '/', rest)
  | 'b' :: rest => some (.char '\x08', rest)
  | 'f' :: rest => some (.char '\x0c', rest)
  | 'n' :: rest => some (.char '\n', rest)
  | 'r' :: rest => some (.char '\r', rest)
  | 't' :: rest => some (.char '\t', rest)
  | 'u' :: rest => (codeUnit? rest).map fun (n, rest) => (.unit n, rest)
  | _ => none

/-- The pieces of a string, read after its opening quote. -/
def string? : Nat → List Char → Option (List StringPiece × List Char)
  | 0, _ => none
  | _ + 1, [] => none
  | fuel + 1, c :: rest =>
    if c = '"' then some ([], rest)
    else if c = '\\' then
      (escape? rest).bind fun (p, rest) =>
        (string? fuel rest).map fun (ps, rest) => (p :: ps, rest)
    else if c.toNat < 32 then none
    else (string? fuel rest).map fun (ps, rest) => (.char c :: ps, rest)

def quoted? (cs : List Char) : Option (List StringPiece × List Char) :=
  match cs with
  | '"' :: rest => string? (rest.length + 1) rest
  | _ => none

mutual

/-- A value at the front of a text that does not start with a blank. -/
def value? : Nat → List Char → Option (Source × List Char)
  | 0, _ => none
  | fuel + 1, cs =>
    match cs with
    | 'n' :: 'u' :: 'l' :: 'l' :: rest => some (null, rest)
    | 't' :: 'r' :: 'u' :: 'e' :: rest => some (bool true, rest)
    | 'f' :: 'a' :: 'l' :: 's' :: 'e' :: rest => some (bool false, rest)
    | '"' :: rest => (quoted? ('"' :: rest)).map fun (ps, rest) => (string ps, rest)
    | '[' :: rest =>
      match skip rest with
      | ']' :: rest => some (array [], rest)
      | rest => (items? fuel rest).map fun (vs, rest) => (array vs, rest)
    | '{' :: rest =>
      match skip rest with
      | '}' :: rest => some (object [], rest)
      | rest => (members? fuel rest).map fun (ms, rest) => (object ms, rest)
    | cs => (numeral? cs).map fun (n, rest) => (number n, rest)

def items? : Nat → List Char → Option (List Source × List Char)
  | 0, _ => none
  | fuel + 1, cs =>
    (value? fuel cs).bind fun (v, rest) =>
      match skip rest with
      | ']' :: rest => some ([v], rest)
      | ',' :: rest => (items? fuel (skip rest)).map fun (vs, rest) => (v :: vs, rest)
      | _ => none

def members? : Nat → List Char → Option (List (List StringPiece × Source) × List Char)
  | 0, _ => none
  | fuel + 1, cs =>
    (quoted? cs).bind fun (key, rest) =>
      match skip rest with
      | ':' :: rest =>
        (value? fuel (skip rest)).bind fun (v, rest) =>
          match skip rest with
          | '}' :: rest => some ([(key, v)], rest)
          | ',' :: rest =>
            (members? fuel (skip rest)).map fun (ms, rest) => ((key, v) :: ms, rest)
          | _ => none
      | _ => none

end

def parse? (cs : List Char) : Option Source :=
  (value? (2 * cs.length + 1) (skip cs)).bind fun (v, rest) =>
    if (skip rest).isEmpty then some v else none

/-- The text of string pieces: surrogates count only as pairs. -/
def text? : List StringPiece → Option (List Char)
  | [] => some []
  | .char c :: rest => (text? rest).map (c :: ·)
  | .unit n :: rest =>
    if 0xdc00 ≤ n ∧ n ≤ 0xdfff then none
    else if 0xd800 ≤ n ∧ n ≤ 0xdbff then
      match rest with
      | .unit m :: rest =>
        if 0xdc00 ≤ m ∧ m ≤ 0xdfff then
          (text? rest).map (Char.ofNat (0x10000 + (n - 0xd800) * 0x400 + (m - 0xdc00)) :: ·)
        else none
      | _ => none
    else (text? rest).map (Char.ofNat n :: ·)

end Source

end TemplateRouter.Json
