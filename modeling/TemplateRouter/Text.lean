import TemplateRouter.Text.Property.Hidden
/-
Texts as lists of characters: their white space, their parts, the numerals they may be, and the
quoted form in which every character is visible.
-/
namespace TemplateRouter.Text

def isBlank (c : Char) : Bool :=
  let n := c.toNat
  (9 ≤ n && n ≤ 13) || n == 0x20 || n == 0x85 || n == 0xa0 || n == 0x1680 ||
    (0x2000 ≤ n && n ≤ 0x200a) || n == 0x2028 || n == 0x2029 || n == 0x202f || n == 0x205f ||
    n == 0x3000

def trim (s : List Char) : List Char :=
  ((s.dropWhile isBlank).reverse.dropWhile isBlank).reverse

section Split

variable {α : Type} [BEq α]

/-- The parts between separators: one more than there are separators. -/
def splitOn (sep : α) : List α → List (List α)
  | [] => [[]]
  | a :: rest =>
    match splitOn sep rest with
    | [] => [[a]]
    | part :: parts => if a == sep then [] :: part :: parts else (a :: part) :: parts

theorem splitOn_ne_nil (sep : α) (l : List α) : splitOn sep l ≠ [] := by
  cases l with
  | nil => simp [splitOn]
  | cons a rest =>
    unfold splitOn
    split
    · simp
    · split <;> simp

end Split

namespace Numeral

/-- The value of a digit in a base up to sixteen. -/
def digit? (base : Nat) (c : Char) : Option Nat :=
  (hexDigit? c).filter (· < base)

/-- Adds digits to a value, refusing anything that is no digit and every value from `bound` on. -/
def accumulate (base bound : Nat) (value : Nat) : List Char → Option Nat
  | [] => some value
  | c :: cs =>
    (digit? base c).bind fun d =>
      let next := value * base + d
      if next < bound then accumulate base bound next cs else none

def read? (base bound : Nat) (cs : List Char) : Option Nat :=
  let digits := match cs with
    | '+' :: rest => rest
    | _ => cs
  if digits.isEmpty then none else accumulate base bound 0 digits

end Numeral

namespace Quoted

def hexDigits (n : Nat) : List Char := Nat.toDigits 16 n

/-- A quote, a backslash and the common controls have short escapes; what has no glyph of its
own is written as its code point. -/
def escape (c : Char) : List Char :=
  match c with
  | '\x00' => ['\\', '0']
  | '\t' => ['\\', 't']
  | '\r' => ['\\', 'r']
  | '\n' => ['\\', 'n']
  | '"' => ['\\', '"']
  | '\\' => ['\\', '\\']
  | c =>
    if Property.hidden.contains c then ['\\', 'u', '{'] ++ hexDigits c.toNat ++ ['}'] else [c]

def quote (s : String) : String :=
  String.ofList ('"' :: s.toList.flatMap escape ++ ['"'])

def quoteList (l : List String) : String :=
  "[" ++ ", ".intercalate (l.map quote) ++ "]"

end Quoted

end TemplateRouter.Text
