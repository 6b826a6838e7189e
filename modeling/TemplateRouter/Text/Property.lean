/-
Character properties as sorted ranges of code points.

A property is written as lines of hexadecimal ranges and asked by bisection.
-/
namespace TemplateRouter.Text

def hexDigit? (c : Char) : Option Nat :=
  if '0' ≤ c ∧ c ≤ '9' then some (c.toNat - 48)
  else if 'a' ≤ c ∧ c ≤ 'f' then some (c.toNat - 87)
  else if 'A' ≤ c ∧ c ≤ 'F' then some (c.toNat - 55)
  else none

def hexNumeral (s : String) : Nat :=
  s.toList.foldl (fun n c => 16 * n + (hexDigit? c).getD 0) 0

/-- The least index from `lo` on that satisfies a monotone predicate, or `hi`. -/
def bisect (p : Nat → Bool) (lo hi : Nat) : Nat :=
  if h : lo < hi then
    if p ((lo + hi) / 2) then bisect p lo ((lo + hi) / 2)
    else bisect p ((lo + hi) / 2 + 1) hi
  else lo
termination_by hi - lo
decreasing_by all_goals omega

/-- Disjoint ranges of code points in ascending order, both ends included. -/
structure Property where
  ranges : Array (Nat × Nat)

namespace Property

/-- Reads ranges such as `41-5a 61-7a aa`. -/
def ofLines (lines : List String) : Property :=
  ⟨(lines.flatMap fun line => (line.splitOn " ").map fun word =>
    match word.splitOn "-" with
    | [lo, hi] => (hexNumeral lo, hexNumeral hi)
    | _ => (hexNumeral word, hexNumeral word)).toArray⟩

def contains (p : Property) (c : Char) : Bool :=
  let i := bisect (fun i => c.toNat ≤ (p.ranges.getD i (0, 0)).2) 0 p.ranges.size
  match p.ranges[i]? with
  | some (lo, _) => lo ≤ c.toNat
  | none => false

end Property

end TemplateRouter.Text
