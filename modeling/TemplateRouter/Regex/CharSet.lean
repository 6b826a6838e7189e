import TemplateRouter.Text
import TemplateRouter.Text.Property.Letters
import TemplateRouter.Text.Property.CaseFold
/-
Sets of characters, as the expressions a bracketed class is made of.
-/
namespace TemplateRouter.Regex

open Text

inductive CharSet where
  | none
  | range (lo hi : Char)
  | digit
  | word
  | blank
  | union (s t : CharSet)
  | inter (s t : CharSet)
  | diff (s t : CharSet)
  | symmDiff (s t : CharSet)
  | compl (s : CharSet)
  | folded (s : CharSet)
  | asciiFolded (s : CharSet)
  deriving Repr, DecidableEq

/-- The characters that have a property of the Unicode standard, by the name of the property and,
where it has several values, one of them. Which names there are is left open. -/
class Properties where
  property? : List Char → Option (List Char) → Option CharSet

namespace CharSet

/-- The ASCII letter of the other case, or the character itself. -/
def otherCase (c : Char) : Char :=
  if c.isUpper then c.toLower else c.toUpper

/-- Membership; a folded set holds every character that folds as one of its members does. -/
def contains : CharSet → Char → Bool
  | none, _ => false
  | range lo hi, c => lo ≤ c && c ≤ hi
  | digit, c => Property.decimalDigit.contains c
  | word, c => Property.isWord c
  | blank, c => isBlank c
  | union s t, c => s.contains c || t.contains c
  | inter s t, c => s.contains c && t.contains c
  | diff s t, c => s.contains c && !t.contains c
  | symmDiff s t, c => s.contains c != t.contains c
  | compl s, c => !s.contains c
  | folded s, c => s.contains c || (CaseFold.orbit c).any s.contains
  | asciiFolded s, c => s.contains c || s.contains (otherCase c)

def singleton (c : Char) : CharSet := range c c

def any : CharSet := compl none

/-- A union that leaves out the empty set. -/
def add : CharSet → CharSet → CharSet
  | none, t => t
  | s, t => union s t

def ofRanges : List (Char × Char) → CharSet
  | [] => none
  | [(lo, hi)] => range lo hi
  | (lo, hi) :: rest => union (range lo hi) (ofRanges rest)

def asciiWord : CharSet := ofRanges [('0', '9'), ('A', 'Z'), ('_', '_'), ('a', 'z')]

/-- The ASCII class of a name such as `alpha`. -/
def ofAsciiName? : String → Option CharSet
  | "alnum" => some (ofRanges [('0', '9'), ('A', 'Z'), ('a', 'z')])
  | "alpha" => some (ofRanges [('A', 'Z'), ('a', 'z')])
  | "ascii" => some (range '\x00' '\x7f')
  | "blank" => some (ofRanges [('\t', '\t'), (' ', ' ')])
  | "cntrl" => some (ofRanges [('\x00', '\x1f'), ('\x7f', '\x7f')])
  | "digit" => some (range '0' '9')
  | "graph" => some (range '!' '~')
  | "lower" => some (range 'a' 'z')
  | "print" => some (range ' ' '~')
  | "punct" => some (ofRanges [('!', '/'), (':', '@'), ('[', '\x60'), ('\x7b', '~')])
  | "space" => some (ofRanges [('\t', '\r'), (' ', ' ')])
  | "upper" => some (range 'A' 'Z')
  | "word" => some asciiWord
  | "xdigit" => some (ofRanges [('0', '9'), ('A', 'F'), ('a', 'f')])
  | _ => Option.none

@[simp] theorem contains_singleton (a c : Char) : (singleton a).contains c = (a == c) := by
  rw [Bool.eq_iff_iff]
  simp only [singleton, contains, Bool.and_eq_true, decide_eq_true_eq, beq_iff_eq]
  exact ⟨fun h => Char.le_antisymm h.1 h.2, fun h => h ▸ ⟨Char.le_refl _, Char.le_refl _⟩⟩

@[simp] theorem contains_add (s t : CharSet) (c : Char) :
    (s.add t).contains c = (s.contains c || t.contains c) := by
  cases s <;> simp [add, contains]

@[simp] theorem contains_any (c : Char) : any.contains c = true := rfl

end CharSet

end TemplateRouter.Regex
