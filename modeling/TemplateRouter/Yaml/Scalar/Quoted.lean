import TemplateRouter.Yaml.Cursor
import TemplateRouter.Text.Property
/-
Quoted scalars, with escapes between double quotes.
-/
namespace TemplateRouter.Yaml.Quoted

def short? : Char → Option Char
  | '0' => some '\x00'
  | 'a' => some '\x07'
  | 'b' => some '\x08'
  | 't' => some '\t'
  | '\t' => some '\t'
  | 'n' => some '\n'
  | 'v' => some '\x0b'
  | 'f' => some '\x0c'
  | 'r' => some '\r'
  | 'e' => some '\x1b'
  | ' ' => some ' '
  | '"' => some '"'
  | '/' => some '/'
  | '\\' => some '\\'
  | 'N' => some '\x85'
  | '_' => some '\xa0'
  | 'L' => some '\u2028'
  | 'P' => some '\u2029'
  | _ => none

def digitCount? : Char → Option Nat
  | 'x' => some 2
  | 'u' => some 4
  | 'U' => some 8
  | _ => none

def ofCodePoint? (n : Nat) : Option Char :=
  if n < 0xd800 ∨ (0xdfff < n ∧ n ≤ 0x10ffff) then some (Char.ofNat n) else none

/-- The character of an escape and the length of what follows its backslash. -/
def escape? : List Char → Option (Char × Nat)
  | [] => none
  | x :: rest =>
    match digitCount? x with
    | none => (short? x).map (·, 1)
    | some n =>
      let digits := rest.take n
      if digits.length < n then none
      else
        (digits.mapM Text.hexDigit?).bind fun ds =>
          (ofCodePoint? (ds.foldl (fun v d => v * 16 + d) 0)).map (·, n + 1)

/-- The characters of a word, and whether it ends in an escaped line break. -/
def word (quote : Char) : Nat → Cursor → Option (List Char × Bool × Cursor)
  | 0, _ => none
  | fuel + 1, c =>
    match c.rest with
    | [] => some ([], false, c)
    | x :: rest =>
      let go (x : Char) (c : Cursor) :=
        (word quote fuel c).map fun (w, broken, c) => (x :: w, broken, c)
      if isBlank x || isBreak x then some ([], false, c)
      else if x == quote then
        if quote == '\'' && rest.head? == some '\'' then go x (c.skipTo 2)
        else some ([], false, c)
      else if x == '\\' && quote == '"' then
        if !rest.isEmpty && atLineEnd rest then some ([], true, c.skip.skipBreak)
        else (escape? rest).bind fun (e, n) => go e (c.skipTo (n + 1))
      else go x c.skip

def words (quote : Char) : Nat → List Char → Cursor → Option (List Char × Cursor)
  | 0, _, _ => none
  | fuel + 1, text, c =>
    if c.atDocumentMark || c.rest.isEmpty then none
    else
      (word quote (c.rest.length + 1) c).bind fun (w, broken, c) =>
        if c.rest.head? == some quote then some (text ++ w, c.skip)
        else
          (Gap.scan 0 (c.rest.length + 1) { broken } c).bind fun (gap, c) =>
            words quote fuel (text ++ w ++ gap.text) c

def scan (quote : Char) (c : Cursor) : Option (List Char × Cursor) :=
  words quote (c.rest.length + 1) [] c.skip

end TemplateRouter.Yaml.Quoted
