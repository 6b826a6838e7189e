/-
UTF-8: bytes as characters, with every ill-formed piece told apart.
-/
namespace TemplateRouter

abbrev Bytes := List UInt8

namespace Text.Utf8

def isContinuation (b : UInt8) : Bool := 0x80 ≤ b && b ≤ 0xbf

/-- Which second bytes may follow the first byte of three. -/
def isSecondOfThree (first second : UInt8) : Bool :=
  if first = 0xe0 then 0xa0 ≤ second && second ≤ 0xbf
  else if first = 0xed then 0x80 ≤ second && second ≤ 0x9f
  else isContinuation second

def isSecondOfFour (first second : UInt8) : Bool :=
  if first = 0xf0 then 0x90 ≤ second && second ≤ 0xbf
  else if first = 0xf4 then 0x80 ≤ second && second ≤ 0x8f
  else isContinuation second

/-- The character whose code point has the low bits of some bytes. -/
def compose (first : Nat) (tail : List UInt8) : Char :=
  Char.ofNat (tail.foldl (fun n b => n * 64 + b.toNat % 64) first)

/-- Characters in order; an ill-formed piece, as long as it could have gone on, is `none`. -/
def pieces (bytes : Bytes) : List (Option Char) :=
  match bytes with
  | [] => []
  | a :: rest =>
    if a < 0x80 then some (Char.ofNat a.toNat) :: pieces rest
    else if 0xc2 ≤ a && a ≤ 0xdf then
      match rest with
      | b :: rest₁ =>
        if isContinuation b then some (compose (a.toNat % 32) [b]) :: pieces rest₁
        else none :: pieces (b :: rest₁)
      | [] => [none]
    else if 0xe0 ≤ a && a ≤ 0xef then
      match rest with
      | b :: c :: rest₂ =>
        if isSecondOfThree a b then
          if isContinuation c then some (compose (a.toNat % 16) [b, c]) :: pieces rest₂
          else none :: pieces (c :: rest₂)
        else none :: pieces (b :: c :: rest₂)
      | [b] => if isSecondOfThree a b then [none] else none :: pieces [b]
      | [] => [none]
    else if 0xf0 ≤ a && a ≤ 0xf4 then
      match rest with
      | b :: c :: d :: rest₃ =>
        if isSecondOfFour a b then
          if isContinuation c then
            if isContinuation d then some (compose (a.toNat % 8) [b, c, d]) :: pieces rest₃
            else none :: pieces (d :: rest₃)
          else none :: pieces (c :: d :: rest₃)
        else none :: pieces (b :: c :: d :: rest₃)
      | [b, c] =>
        if isSecondOfFour a b then
          if isContinuation c then [none] else none :: pieces [c]
        else none :: pieces [b, c]
      | [b] => if isSecondOfFour a b then [none] else none :: pieces [b]
      | [] => [none]
    else none :: pieces rest
termination_by bytes.length

def decode? (bytes : Bytes) : Option String :=
  let ps := pieces bytes
  if ps.all Option.isSome then some (String.ofList (ps.filterMap id)) else none

/-- The text with a replacement character for every ill-formed piece. -/
def display (bytes : Bytes) : String :=
  String.ofList ((pieces bytes).map fun p => p.getD '\ufffd')

def encode (s : String) : Bytes := s.toUTF8.toList

end Text.Utf8

end TemplateRouter
