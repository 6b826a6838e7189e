/-
Dictionaries: pairs in ascending order of key, each key once.
-/
namespace TemplateRouter

abbrev Dictionary (α : Type) := List (String × α)

namespace Dictionary

variable {α : Type}

/-- Sets the value of a key, in place of one it may have had. -/
def insert (key : String) (value : α) : Dictionary α → Dictionary α
  | [] => [(key, value)]
  | (k, v) :: rest =>
    if key = k then (key, value) :: rest
    else if key < k then (key, value) :: (k, v) :: rest
    else (k, v) :: insert key value rest

def get? : Dictionary α → String → Option α
  | [], _ => none
  | (k, v) :: rest, key => if key = k then some v else get? rest key

theorem get?_insert (d : Dictionary α) (key k : String) (value : α) :
    get? (insert key value d) k = if k = key then some value else get? d k := by
  induction d with
  | nil => rfl
  | cons p rest ih =>
    obtain ⟨k', v'⟩ := p
    unfold insert
    split
    · subst_vars
      by_cases h : k = k' <;> simp [get?, h]
    · split
      · rfl
      · by_cases h : k = k'
        · subst h
          have : k ≠ key := fun e => by simp_all
          simp [get?, this]
        · simp [get?, h, ih]

/-- Inserts pairs one after the other, so that of two with one key the later counts. -/
def ofPairs (pairs : List (String × α)) : Dictionary α :=
  pairs.foldl (fun d (k, v) => insert k v d) []

end Dictionary

end TemplateRouter
