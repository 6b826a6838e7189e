import TemplateRouter.Dictionary
import TemplateRouter.Number.Decimal
/-
JSON values and the compact text of each.
-/
namespace TemplateRouter

/-- The members of an object have an order, in which they are written, and each key once. -/
inductive Json where
  | null
  | bool (b : Bool)
  | int (n : Int)
  | float (x : Float)
  | string (s : String)
  | array (items : List Json)
  | object (members : List (String × Json))
  deriving Inhabited

namespace Json

def decimalDigits (n : Nat) : List Char := Nat.toDigits 10 n

/-- A decimal in positional notation between `1e-5` and `1e16`, else with an exponent. -/
def layout (d : Decimal) : List Char :=
  let digits := decimalDigits d.digits
  let leading : Int := d.exponent + digits.length - 1
  if -5 ≤ leading && leading < 16 then
    if d.exponent ≥ 0 then digits ++ List.replicate d.exponent.toNat '0' ++ ['.', '0']
    else if leading < 0 then
      ['0', '.'] ++ List.replicate (-leading - 1).toNat '0' ++ digits
    else
      digits.take (leading.toNat + 1) ++ '.' :: digits.drop (leading.toNat + 1)
  else
    let fraction := match digits.drop 1 with
      | [] => []
      | rest => '.' :: rest
    let sign := if leading < 0 then '-' else '+'
    digits.take 1 ++ fraction ++ 'e' :: sign :: decimalDigits leading.natAbs

/-- A float; what is no number or infinite has no text of its own. -/
def renderFloat (x : Float) : List Char :=
  let bits := x.toBits.toNat
  if bits / Nat.pow 2 52 % Nat.pow 2 11 = 2047 then ['n', 'u', 'l', 'l']
  else
    let magnitude := layout (.ofBits bits)
    if bits / Nat.pow 2 63 = 1 then '-' :: magnitude else magnitude

def renderInt (n : Int) : List Char :=
  if n < 0 then '-' :: decimalDigits n.natAbs else decimalDigits n.natAbs

def hexDigit (n : Nat) : Char := Char.ofNat (if n < 10 then 48 + n else 87 + n)

/-- Quotes, backslashes and controls are escaped, all else is written as it is. -/
def renderChar (c : Char) : List Char :=
  match c with
  | '"' => ['\\', '"']
  | '\\' => ['\\', '\\']
  | '\x08' => ['\\', 'b']
  | '\x0c' => ['\\', 'f']
  | '\n' => ['\\', 'n']
  | '\r' => ['\\', 'r']
  | '\t' => ['\\', 't']
  | c =>
    if c.toNat < 32 then ['\\', 'u', '0', '0', hexDigit (c.toNat / 16), hexDigit (c.toNat % 16)]
    else [c]

def renderString (s : String) : List Char := '"' :: s.toList.flatMap renderChar ++ ['"']

mutual

def render : Json → List Char
  | null => ['n', 'u', 'l', 'l']
  | bool true => ['t', 'r', 'u', 'e']
  | bool false => ['f', 'a', 'l', 's', 'e']
  | int n => renderInt n
  | float x => renderFloat x
  | string s => renderString s
  | array items => '[' :: renderItems items ++ [']']
  | object members => '{' :: renderMembers members ++ ['}']

def renderItems : List Json → List Char
  | [] => []
  | [v] => render v
  | v :: w :: rest => render v ++ ',' :: renderItems (w :: rest)

def renderMembers : List (String × Json) → List Char
  | [] => []
  | [(k, v)] => renderString k ++ ':' :: render v
  | (k, v) :: m :: rest => renderString k ++ ':' :: render v ++ ',' :: renderMembers (m :: rest)

end

def text (v : Json) : String := String.ofList v.render

/-- An object of given members in ascending order; of two with one key the later counts. -/
def ofMembers (members : List (String × Json)) : Json := object (Dictionary.ofPairs members)

end Json

end TemplateRouter
