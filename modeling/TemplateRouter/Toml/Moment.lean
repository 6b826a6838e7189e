/-
Dates, times of day, and both together, with or without an offset.
-/
namespace TemplateRouter.Toml

structure Date where
  year : Nat
  month : Nat
  day : Nat
  deriving Repr, DecidableEq

/-- A time of day, to the minute, the second or the nanosecond. -/
structure Clock where
  hour : Nat
  minute : Nat
  second : Option Nat
  nanosecond : Option Nat
  deriving Repr, DecidableEq

inductive Offset where
  | universal
  | minutes (m : Int)
  deriving Repr, DecidableEq

/-- There is a date or a time of day, and an offset only with both. -/
structure Moment where
  date : Option Date
  clock : Option Clock
  offset : Option Offset
  deriving Repr, DecidableEq

def Date.isLeapYear (year : Nat) : Bool := year % 4 == 0 && (year % 100 != 0 || year % 400 == 0)

def Date.daysIn (year month : Nat) : Nat :=
  match month with
  | 2 => if isLeapYear year then 29 else 28
  | 4 | 6 | 9 | 11 => 30
  | _ => 31

def Date.isValid (d : Date) : Bool :=
  1 ≤ d.month && d.month ≤ 12 && 1 ≤ d.day && d.day ≤ daysIn d.year d.month

/-- A minute may have sixty-one seconds. -/
def Clock.isValid (t : Clock) : Bool :=
  t.hour ≤ 23 && t.minute ≤ 59 && t.second.all (· ≤ 60)

namespace Moment

def isDigit (c : Char) : Bool := '0' ≤ c && c ≤ '9'

def number (ds : List Char) : Nat := ds.foldl (fun n d => n * 10 + (d.toNat - 48)) 0

/-- A number of exactly so many digits, and what follows it. -/
def digits? (n : Nat) (cs : List Char) : Option (Nat × List Char) :=
  let ds := cs.takeWhile isDigit
  if ds.length == n then some (number ds, cs.drop n) else none

def pass? (p : Char → Bool) : List Char → Option (List Char)
  | c :: rest => if p c then some rest else none
  | [] => none

def date? (cs : List Char) : Option (Date × List Char) := do
  let (year, cs) ← digits? 4 cs
  let (month, cs) ← digits? 2 (← pass? (· == '-') cs)
  let (day, cs) ← digits? 2 (← pass? (· == '-') cs)
  if (Date.mk year month day).isValid then some (⟨year, month, day⟩, cs) else none

/-- Digits of a fraction beyond the ninth are dropped. -/
def nanoseconds (ds : List Char) : Nat := number (ds ++ List.replicate 9 '0' |>.take 9)

def fraction? (cs : List Char) : Option (Option Nat × List Char) :=
  match cs with
  | '.' :: cs =>
    let ds := cs.takeWhile isDigit
    if ds.isEmpty then none else some (some (nanoseconds ds), cs.drop ds.length)
  | cs => some (none, cs)

def second? (cs : List Char) : Option (Option Nat × Option Nat × List Char) :=
  match cs with
  | ':' :: cs => do
    let (second, cs) ← digits? 2 cs
    let (fraction, cs) ← fraction? cs
    some (some second, fraction, cs)
  | cs => some (none, none, cs)

def clock? (cs : List Char) : Option (Clock × List Char) := do
  let (hour, cs) ← digits? 2 cs
  let (minute, cs) ← digits? 2 (← pass? (· == ':') cs)
  let (second, nanosecond, cs) ← second? cs
  let t : Clock := ⟨hour, minute, second, nanosecond⟩
  if t.isValid then some (t, cs) else none

def offset? (cs : List Char) : Option (Option Offset) :=
  match cs with
  | [] => some none
  | ['Z'] | ['z'] => some (some .universal)
  | sign :: cs => do
    if sign != '+' && sign != '-' then none
    else
      let (hours, cs) ← digits? 2 cs
      let (minutes, cs) ← digits? 2 (← pass? (· == ':') cs)
      let total : Int := hours * 60 + minutes
      if cs.isEmpty && hours ≤ 23 && minutes ≤ 59 then
        some (some (.minutes (if sign == '-' then -total else total)))
      else none

def parse? (cs : List Char) : Option Moment :=
  match date? cs with
  | some (date, []) => some ⟨some date, none, none⟩
  | some (date, t :: cs) => do
    if t != 'T' && t != 't' && t != ' ' then none
    else
      let (clock, cs) ← clock? cs
      some ⟨some date, some clock, ← offset? cs⟩
  | none => do
    let (clock, cs) ← clock? cs
    if cs.isEmpty then some ⟨none, some clock, none⟩ else none

def padded (width n : Nat) : List Char :=
  let ds := Nat.toDigits 10 n
  List.replicate (width - ds.length) '0' ++ ds

/-- Nanoseconds without the zeros at their end, but with one digit at least. -/
def renderFraction (n : Nat) : List Char :=
  let ds := ((padded 9 n).reverse.dropWhile (· == '0')).reverse
  if ds.isEmpty then ['0'] else ds

def renderDate (d : Date) : List Char :=
  padded 4 d.year ++ '-' :: padded 2 d.month ++ '-' :: padded 2 d.day

def renderClock (t : Clock) : List Char :=
  padded 2 t.hour ++ ':' :: padded 2 t.minute ++
    (t.second.map fun s => ':' :: padded 2 s).getD [] ++
    (t.nanosecond.map fun n => '.' :: renderFraction n).getD []

def renderOffset : Offset → List Char
  | .universal => ['Z']
  | .minutes m =>
    (if m < 0 then '-' else '+') :: padded 2 (m.natAbs / 60) ++ ':' :: padded 2 (m.natAbs % 60)

def render (m : Moment) : List Char :=
  (m.date.map renderDate).getD [] ++
    (if m.date.isSome && m.clock.isSome then ['T'] else []) ++
    (m.clock.map renderClock).getD [] ++ (m.offset.map renderOffset).getD []

end Moment

end TemplateRouter.Toml
