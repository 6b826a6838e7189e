/-
Decimals and binary floating-point numbers of 64 bits: exact rounding in both directions.

Reading takes the nearest float. Writing takes the fewest digits that read back, and of those the
nearest.
-/
namespace TemplateRouter

/-- The number `digits * 10 ^ exponent`. -/
structure Decimal where
  digits : Nat
  exponent : Int
  deriving Repr, DecidableEq, Inhabited

namespace Decimal

def roundHalfEven (num den : Nat) : Nat :=
  let q := num / den
  let r := 2 * (num % den)
  if r < den || (r == den && q % 2 == 0) then q else q + 1

def lastBit (num den : Nat) : Int :=
  let guess : Int := (num.log2 : Int) - den.log2 - 52
  let fits (k : Int) : Bool :=
    if k < 0 then num * Nat.pow 2 (-k).toNat < den * Nat.pow 2 53
    else num < den * Nat.pow 2 (53 + k.toNat)
  max (-1074) (if fits (guess - 1) then guess - 1 else if fits guess then guess else guess + 1)

def bitsOfRatio (num den : Nat) : Nat :=
  if num = 0 then 0
  else
    let k := lastBit num den
    let m := if k < 0 then roundHalfEven (num * Nat.pow 2 (-k).toNat) den
      else roundHalfEven num (den * Nat.pow 2 k.toNat)
    min (m + (k + 1074).toNat * Nat.pow 2 52) (0x7ff * Nat.pow 2 52)

/-- The float nearest to a decimal; what is far out of range is zero or infinity. -/
def toFloat (d : Decimal) : Float :=
  let size : Int := (Nat.toDigits 10 d.digits).length + d.exponent
  let bits := if d.digits = 0 || size < -400 then 0
    else if size > 400 then 0x7ff * Nat.pow 2 52
    else if d.exponent < 0 then bitsOfRatio d.digits (Nat.pow 10 (-d.exponent).toNat)
    else bitsOfRatio (d.digits * Nat.pow 10 d.exponent.toNat) 1
  Float.ofBits (UInt64.ofNat bits)

structure Binary where
  significand : Nat
  exponent : Int

def Binary.ofBits (bits : Nat) : Binary :=
  let biased : Nat := bits / Nat.pow 2 52 % Nat.pow 2 11
  let fraction : Nat := bits % Nat.pow 2 52
  if biased = 0 then ⟨fraction, -1074⟩ else ⟨fraction + Nat.pow 2 52, (biased : Int) - 1075⟩

/-- The decimals that read back as a float lie between two bounds, all over `den`. -/
structure Interval where
  low : Nat
  value : Nat
  high : Nat
  den : Nat
  closed : Bool

/-- Half-way to the neighbours; below a power of two the neighbour is nearer. -/
def Interval.ofBinary (b : Binary) : Interval :=
  let below := if b.significand = Nat.pow 2 52 && b.exponent > -1074 then 1 else 2
  let q := b.exponent - 2
  let num := if q < 0 then 1 else Nat.pow 2 q.toNat
  let den := if q < 0 then Nat.pow 2 (-q).toNat else 1
  ⟨(4 * b.significand - below) * num, 4 * b.significand * num, (4 * b.significand + 2) * num, den,
    b.significand % 2 == 0⟩

namespace Interval

def holds (i : Interval) (num den : Nat) : Bool :=
  let x := num * i.den
  if i.closed then i.low * den ≤ x && x ≤ i.high * den
  else i.low * den < x && x < i.high * den

/-- The decimal on a grid of tens that is nearest to the value, if one lies in the interval. -/
def onGrid? (i : Interval) (exponent : Int) : Option Decimal :=
  let up := if exponent < 0 then Nat.pow 10 (-exponent).toNat else 1
  let down := if exponent < 0 then 1 else Nat.pow 10 exponent.toNat
  let nearest := roundHalfEven (i.value * up) (i.den * down)
  let floor := i.value * up / (i.den * down)
  ([nearest, floor, floor + 1].find? fun d => i.holds (d * down) up).map fun d => ⟨d, exponent⟩

def leading (i : Interval) : Int :=
  let whole := i.value / i.den
  if whole > 0 then (Nat.toDigits 10 whole).length - 1
  else
    let k := ((List.range 330).find? fun k => i.value * Nat.pow 10 k ≥ i.den).getD 330
    Int.negOfNat k

/-- The decimal of fewest digits, tried from one digit up to seventeen. -/
def shortest (i : Interval) : Decimal :=
  let top := leading i
  match (List.range 17).findSome? fun (n : Nat) => i.onGrid? (top - n) with
  | some d => if d.digits = 10 then ⟨1, d.exponent + 1⟩ else d
  | none => ⟨0, 0⟩

end Interval

def ofBits (bits : Nat) : Decimal :=
  let b := Binary.ofBits bits
  if b.significand = 0 then ⟨0, 0⟩ else (Interval.ofBinary b).shortest

def isDigit (c : Char) : Bool := '0' ≤ c && c ≤ '9'

def isSigned : List Char → Bool
  | '+' :: _ | '-' :: _ => true
  | _ => false

def unsigned (s : List Char) : List Char := if isSigned s then s.tail else s

def exponent? : List Char → Option Int
  | [] => some 0
  | e :: s =>
    if e != 'e' && e != 'E' then none
    else
      let digits := unsigned s
      if digits.isEmpty || !digits.all isDigit then none
      else
        let n : Int := digits.foldl (fun n d => n * 10 + (d.toNat - 48)) (0 : Nat)
        some (if s.head? == some '-' then -n else n)

def read? (s : List Char) : Option Decimal :=
  let whole := s.takeWhile isDigit
  let rest := s.dropWhile isDigit
  let (fraction, rest) := match rest with
    | '.' :: rest => (rest.takeWhile isDigit, rest.dropWhile isDigit)
    | _ => ([], rest)
  if whole.isEmpty && fraction.isEmpty then none
  else (exponent? rest).map fun e =>
    ⟨(whole ++ fraction).foldl (fun n d => n * 10 + (d.toNat - 48)) 0, e - fraction.length⟩

end Decimal

end TemplateRouter
