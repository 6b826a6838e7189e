import TemplateRouter.Yaml.Document
import TemplateRouter.Json
import TemplateRouter.Number.Decimal
import TemplateRouter.Text
/-
The values of YAML nodes: plain scalars get their types from how they are written, unless a tag
says what they are.
-/
namespace TemplateRouter.Yaml

namespace Scalar

open Decimal (isDigit isSigned unsigned)

def isNull (s : List Char) : Bool := ["null", "Null", "NULL", "~"].contains (String.ofList s)

def bool? (s : List Char) : Option Bool :=
  let word := String.ofList s
  if ["true", "True", "TRUE"].contains word then some true
  else if ["false", "False", "FALSE"].contains word then some false
  else none

/-- Digits after a needless zero, with or without a sign, are no number. -/
def isPadded (s : List Char) : Bool :=
  match unsigned s with
  | '0' :: c :: rest => (c :: rest).all isDigit
  | _ => false

/-- The base that a mark at the front stands for, and the digits after it. -/
def based? : List Char → Option (Nat × List Char)
  | '0' :: 'x' :: digits => some (16, digits)
  | '0' :: 'o' :: digits => some (8, digits)
  | '0' :: 'b' :: digits => some (2, digits)
  | _ => none

def digits? (base bound : Nat) (s : List Char) : Option Nat :=
  if isSigned s then none else Text.Numeral.read? base bound s

/-- A number without a minus sign, less than `bound`. -/
def natural? (bound : Nat) (s : List Char) : Option Nat :=
  let magnitude := match s with
    | '+' :: rest => rest
    | _ => s
  match based? magnitude with
  | some (base, digits) => digits? base bound digits
  | none => if isPadded s then none else digits? 10 bound magnitude

/-- The magnitude of a number with a minus sign, up to `bound`. -/
def negative? (bound : Nat) : List Char → Option Nat
  | '-' :: rest =>
    match based? rest with
    | some (base, digits) => digits? base (bound + 1) digits
    | none => if isPadded rest then none else digits? 10 (bound + 1) rest
  | _ => none

/-- An integer of 64 bits, with a sign or without; one of 128 bits is an error. -/
def int? (s : List Char) : Option (Option Json) :=
  match natural? (Nat.pow 2 64) s, negative? (Nat.pow 2 63) s with
  | some n, _ => some (some (.int n))
  | none, some n => some (some (.int (-n)))
  | none, none =>
    if (natural? (Nat.pow 2 128) s).isSome || (negative? (Nat.pow 2 127) s).isSome then some none
    else none

def finite? (s : List Char) : Option Float :=
  let magnitude := (Decimal.read? (unsigned s)).map Decimal.toFloat
  (magnitude.filter fun x => x.isFinite).map fun x => if s.head? == some '-' then -x else x

def isInfinity (s : List Char) : Bool := [".inf", ".Inf", ".INF"].contains (String.ofList s)

def isNaN (s : List Char) : Bool := [".nan", ".NaN", ".NAN"].contains (String.ofList s)

/-- A float; infinities and what is no number have no value of their own. -/
def float? (s : List Char) : Option Json :=
  if isInfinity (unsigned s) || isNaN s then some .null else (finite? s).map .float

def ofText (s : List Char) : Json := .string (String.ofList s)

def plain? (s : List Char) : Option Json :=
  if s.isEmpty || isNull s then some .null
  else match bool? s, int? s with
    | some b, _ => some (.bool b)
    | none, some n => n
    | none, none =>
      if isPadded s then some (ofText s) else some ((float? s).getD (ofText s))

def standardTag (name : String) : Bytes := Text.Utf8.encode ("tag:yaml.org,2002:" ++ name)

/-- The value of a scalar with a tag that is not local. -/
def tagged? (tag : Bytes) (s : List Char) : Option Json :=
  if tag == standardTag "bool" then (bool? s).map .bool
  else if tag == standardTag "int" then (int? s).join
  else if tag == standardTag "float" then float? s
  else if tag == standardTag "null" then (if isNull s then some .null else none)
  else some (ofText s)

end Scalar

/-- Whether a tag names a type of the application, for which there is no value. -/
def isLocal (tag : Option Bytes) : Bool :=
  match tag with
  | some (33 :: name) => (Text.Utf8.decode? name).isSome
  | _ => false

/-- A tag that starts with a mark but is no text does not count for a plain scalar. -/
def scalarValue? (tag : Option Bytes) (text : List Char) (plain : Bool) : Option Json :=
  if isLocal tag then none
  else match tag with
    | none => if plain then Scalar.plain? text else some (Scalar.ofText text)
    | some (33 :: _) => if plain then Scalar.plain? text else some (Scalar.ofText text)
    | some tag => Scalar.tagged? tag text

namespace Document

def value (d : Document) (depth : Nat) (t : Tree) : Reading Json := do
  match ← d.resolve t with
  | .scalar tag text plain => (scalarValue? tag text plain : Option Json)
  | .sequence tag items =>
    match depth with
    | 0 => failure
    | depth + 1 =>
      if isLocal tag then failure
      else return .array (← items.mapM (d.value depth))
  | .mapping tag entries =>
    match depth with
    | 0 => failure
    | depth + 1 =>
      if isLocal tag then failure
      else
        return .ofMembers (← entries.mapM fun (k, v) => do
          return (String.ofList (← d.scalarText k), ← d.value depth v))
  | .reference _ => failure
termination_by structural depth

end Document

end TemplateRouter.Yaml
