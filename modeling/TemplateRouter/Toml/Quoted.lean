import TemplateRouter.Text.Property
/-
Strings of a TOML text: with escapes or without, on one line or on several.
-/
namespace TemplateRouter.Toml

/-- Tabs are the only controls that may stand in a line. -/
def isLineChar (c : Char) : Bool := c == '\t' || (0x20 ≤ c.toNat && c.toNat != 0x7f)

def isBlank (c : Char) : Bool := c == ' ' || c == '\t'

def skipBlanks (cs : List Char) : List Char := cs.dropWhile isBlank

def newline? : List Char → Option (List Char)
  | '\n' :: rest => some rest
  | '\r' :: '\n' :: rest => some rest
  | _ => none

namespace Quoted

def short? : Char → Option Char
  | 'b' => some '\x08'
  | 't' => some '\t'
  | 'n' => some '\n'
  | 'f' => some '\x0c'
  | 'r' => some '\r'
  | 'e' => some '\x1b'
  | '"' => some '"'
  | '\\' => some '\\'
  | _ => none

/-- How many hexadecimal digits follow the letter of an escape. -/
def digitCount? : Char → Option Nat
  | 'x' => some 2
  | 'u' => some 4
  | 'U' => some 8
  | _ => none

def ofCodePoint? (n : Nat) : Option Char :=
  if n < 0xd800 ∨ (0xdfff < n ∧ n ≤ 0x10ffff) then some (Char.ofNat n) else none

def escape? : List Char → Option (Char × List Char)
  | [] => none
  | x :: rest =>
    match digitCount? x with
    | none => (short? x).map (·, rest)
    | some n =>
      let digits := rest.take n
      if digits.length < n then none
      else
        (digits.mapM Text.hexDigit?).bind fun ds =>
          (ofCodePoint? (ds.foldl (fun v d => v * 16 + d) 0)).map (·, rest.drop n)

def literal? (cs : List Char) : Option (List Char × List Char) :=
  let body := cs.takeWhile (· != '\'')
  match cs.drop body.length with
  | _ :: rest => if body.all isLineChar then some (body, rest) else none
  | [] => none

/-- A string with escapes, read after its opening quote. -/
def basic? : Nat → List Char → Option (List Char × List Char)
  | 0, _ => none
  | _ + 1, [] => none
  | fuel + 1, c :: rest =>
    if c == '"' then some ([], rest)
    else if c == '\\' then
      (escape? rest).bind fun (e, rest) => (basic? fuel rest).map fun (s, rest) => (e :: s, rest)
    else if isLineChar c then (basic? fuel rest).map fun (s, rest) => (c :: s, rest)
    else none

def skipLines : Nat → List Char → List Char
  | 0, cs => cs
  | fuel + 1, cs =>
    match newline? (skipBlanks cs) with
    | some rest => skipLines fuel rest
    | none => skipBlanks cs

/-- What follows an escaped line break: all blank lines are passed. -/
def joinLines? (cs : List Char) : Option (List Char) :=
  (newline? (skipBlanks cs)).map fun rest => skipLines (rest.length + 1) rest

def run (quote : Char) (cs : List Char) : Nat := (cs.takeWhile (· == quote)).length

/-- A string of several lines up to its three closing quotes, before which two more may stand. -/
def multi? (quote : Char) : Nat → List Char → Option (List Char × List Char)
  | 0, _ => none
  | _ + 1, [] => none
  | fuel + 1, c :: rest =>
    let go (s : List Char) (rest : List Char) :=
      (multi? quote fuel rest).map fun (t, rest) => (s ++ t, rest)
    if c == quote then
      let n := min (run quote (c :: rest)) 5
      if n < 3 then go [c] rest else some (List.replicate (n - 3) quote, (c :: rest).drop n)
    else if c == '\\' && quote == '"' then
      match joinLines? rest with
      | some rest => go [] rest
      | none => (escape? rest).bind fun (e, rest) => go [e] rest
    else if c == '\n' then go [c] rest
    else if c == '\r' then (newline? (c :: rest)).bind fun rest => go ['\r', '\n'] rest
    else if isLineChar c then go [c] rest
    else none

/-- A line break right after the opening quotes is not part of a string. -/
def multiBody? (quote : Char) (cs : List Char) : Option (List Char × List Char) :=
  let cs := (newline? cs).getD cs
  multi? quote (cs.length + 1) cs

def line? (cs : List Char) : Option (List Char × List Char) :=
  match cs with
  | '"' :: rest => basic? (rest.length + 1) rest
  | '\'' :: rest => literal? rest
  | _ => none

def string? (cs : List Char) : Option (List Char × List Char) :=
  match cs with
  | '"' :: '"' :: '"' :: rest => multiBody? '"' rest
  | '\'' :: '\'' :: '\'' :: rest => multiBody? '\'' rest
  | cs => line? cs

end Quoted

end TemplateRouter.Toml
