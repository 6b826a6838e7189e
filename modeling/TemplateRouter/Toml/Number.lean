import TemplateRouter.Toml.Table
import TemplateRouter.Number.Decimal
import TemplateRouter.Text.Property
/-
Values written without quotes: numbers, truth values and moments.
-/
namespace TemplateRouter.Toml.Bare

def isDigit (c : Char) : Bool := '0' ≤ c && c ≤ '9'

/-- Digits of some kind, at least one, with single underscores between them. -/
def grouped? (p : Char → Bool) : List Char → Option (List Char)
  | [] => none
  | [c] => if p c then some [c] else none
  | c :: '_' :: rest => if p c then (grouped? p rest).map (c :: ·) else none
  | c :: d :: rest => if p c then (grouped? p (d :: rest)).map (c :: ·) else none

/-- Digits without a needless zero at the front. -/
def whole? (cs : List Char) : Option (List Char) :=
  (grouped? isDigit cs).filter fun ds => ds.length == 1 || ds.head? != some '0'

def valueOf (base : Nat) (ds : List Char) : Nat :=
  ds.foldl (fun n d => n * base + (Text.hexDigit? d).getD 0) 0

/-- Words have up to 128 bits. -/
def int (n : Int) : Value := if -Int.pow 2 127 ≤ n ∧ n < Int.pow 2 128 then .int n else .tooLarge

def based? : List Char → Option Value
  | '0' :: mark :: digits =>
    let base := match mark with
      | 'x' => 16
      | 'o' => 8
      | 'b' => 2
      | _ => 0
    (grouped? (fun c => (Text.hexDigit? c).any (· < base)) digits).map fun ds =>
      int (valueOf base ds)
  | _ => none

def exponent? (cs : List Char) : Option Int :=
  match cs with
  | [] => some 0
  | e :: cs =>
    if e != 'e' && e != 'E' then none
    else
      let (negative, ds) := match cs with
        | '-' :: ds => (true, ds)
        | '+' :: ds => (false, ds)
        | ds => (false, ds)
      (grouped? isDigit ds).map fun ds =>
        if negative then -(valueOf 10 ds : Int) else valueOf 10 ds

def isExponentMark (c : Char) : Bool := c == 'e' || c == 'E'

/-- A decimal with a fraction, an exponent or both. -/
def decimal? (cs : List Char) : Option Decimal := do
  let mantissa := cs.takeWhile fun c => !isExponentMark c
  let exponent ← exponent? (cs.drop mantissa.length)
  let whole ← whole? (mantissa.takeWhile (· != '.'))
  let fraction ← match mantissa.dropWhile (· != '.') with
    | [] => some []
    | _ :: ds => grouped? isDigit ds
  return ⟨valueOf 10 (whole ++ fraction), exponent - fraction.length⟩

def unsigned? (negative : Bool) (cs : List Char) : Option Value :=
  let float (x : Float) := Value.float (if negative then -x else x)
  if cs == ['i', 'n', 'f'] then some (float (1 / 0))
  else if cs == ['n', 'a', 'n'] then some (float (0 / 0))
  else
    match whole? cs with
    | some ds => some (int (if negative then -(valueOf 10 ds : Int) else valueOf 10 ds))
    | none =>
      (decimal? cs).map fun d => if d.toFloat.isFinite then float d.toFloat else .tooLarge

def value? (cs : List Char) : Option Value :=
  match cs with
  | ['t', 'r', 'u', 'e'] => some (.bool true)
  | ['f', 'a', 'l', 's', 'e'] => some (.bool false)
  | '+' :: cs => unsigned? false cs
  | '-' :: cs => unsigned? true cs
  | cs =>
    match Moment.parse? cs with
    | some m => some (.moment m)
    | none => (based? cs).orElse fun _ => unsigned? false cs

end TemplateRouter.Toml.Bare
