import TemplateRouter.Json.Source
/-
The value a JSON source stands for.

Numerals with a fraction, an exponent or more than 64 bits are floats, computed from the leading
digits that fit 64 bits and a power of ten.
-/
namespace TemplateRouter.Json

namespace Numeral

def maxWord : Nat := Nat.pow 2 64 - 1

/-- Takes digits while the number fits a word: the number, and the digits left. -/
def take (n : Nat) : List Char → Nat × List Char
  | [] => (n, [])
  | c :: cs =>
    let next := n * 10 + (c.toNat - 48)
    if next ≤ maxWord then take next cs else (n, c :: cs)

def powerOfTen (n : Nat) : Float := Decimal.toFloat ⟨1, n⟩

/-- Scales a float by a power of ten in as many steps as it takes; none if it gets too large. -/
def scale (x : Float) (exponent : Int) : Nat → Option Float
  | 0 => some x
  | steps + 1 =>
    if exponent.natAbs ≤ 308 then
      if exponent ≥ 0 then
        let y := x * powerOfTen exponent.natAbs
        if y.isInf then none else some y
      else some (x / powerOfTen exponent.natAbs)
    else if x == 0 then some x
    else if exponent ≥ 0 then none
    else scale (x / powerOfTen 308) (exponent + 308) steps

def toFloat (significand : Nat) (exponent : Int) : Option Float :=
  scale (UInt64.ofNat significand).toFloat exponent 8

def largestExponent : Int := Int.pow 2 31 - 1

/-- A written exponent; one beyond 32 bits makes the number zero or too large. -/
def withExponent (significand : Nat) (start : Int) (negative : Bool) (digits : List Char) :
    Option Float :=
  let written : Int := digits.foldl (fun n c => n * 10 + (c.toNat - 48)) (0 : Nat)
  if written > largestExponent then
    if significand ≠ 0 ∧ ¬ negative then none else some 0
  else
    let sum := if negative then start - written else start + written
    toFloat significand (max (-largestExponent - 1) (min largestExponent sum))

/-- The magnitude as a float: digits of the fraction count while the significand fits a word. -/
def magnitude (n : Numeral) : Option Float :=
  let (head, dropped) := take 0 n.whole
  let (significand, left) := take head n.fraction
  let exponent : Int := dropped.length - (n.fraction.length - left.length : Nat)
  match n.exponent with
  | some (negative, digits) => withExponent significand exponent negative digits
  | none => toFloat significand exponent

/-- A whole number of 64 bits, signed or not, or else a float; minus zero is a float. -/
def value (n : Numeral) : Option Json :=
  let (whole, dropped) := take 0 n.whole
  if dropped.isEmpty && n.fraction.isEmpty && n.exponent.isNone &&
      (!n.negative || (0 < whole && whole ≤ Nat.pow 2 63)) then
    some (.int (if n.negative then -whole else whole))
  else (magnitude n).map fun x => .float (if n.negative then -x else x)

end Numeral

namespace Source

/-- How many containers may be nested, the outermost included. -/
def maxDepth : Nat := 127

mutual

/-- The value of a source with at most `depth` containers inside one another. -/
def value (depth : Nat) : Source → Option Json
  | null => some .null
  | bool b => some (.bool b)
  | number n => n.value
  | string ps => (text? ps).map fun s => .string (String.ofList s)
  | array items =>
    match depth with
    | 0 => none
    | depth + 1 => (values depth items).map .array
  | object members =>
    match depth with
    | 0 => none
    | depth + 1 => (memberValues depth members).map .ofMembers

def values (depth : Nat) : List Source → Option (List Json)
  | [] => some []
  | v :: rest => (value depth v).bind fun v => (values depth rest).map (v :: ·)

def memberValues (depth : Nat) :
    List (List StringPiece × Source) → Option (List (String × Json))
  | [] => some []
  | (k, v) :: rest =>
    (text? k).bind fun k => (value depth v).bind fun v =>
      (memberValues depth rest).map ((String.ofList k, v) :: ·)

end

end Source

def parse? (cs : List Char) : Option Json :=
  (Source.parse? cs).bind (Source.value Source.maxDepth)

end TemplateRouter.Json
