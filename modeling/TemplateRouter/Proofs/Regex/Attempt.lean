import Mathlib.Tactic.Common
import TemplateRouter.Regex.Search
/-
Choices that are made once: leaving one out loses nothing as long as every choice made before has
failed. Which choices fail is a parameter here; a client names them for its own trees.
-/
namespace TemplateRouter.Regex

/-- Choices, each as its place in the tree and the length of the text left. -/
abbrev Choices := Nat × Nat → Prop

variable {α : Type} {dead : Choices} {made made' : Made} {place left : Nat}

/-- What has been added to the choices made are choices that fail. -/
def Grows (dead : Choices) (made made' : Made) : Prop := ∀ e ∈ made', e ∈ made ∨ dead e

/-- No choice from a place on and within a length has been made, except ones that fail. -/
def Clear (dead : Choices) (made : Made) (place left : Nat) : Prop :=
  ∀ e ∈ made, place ≤ e.1 → e.2 ≤ left → dead e

theorem Grows.refl (made : Made) : Grows dead made made := fun _ he => .inl he

theorem Clear.empty (place left : Nat) : Clear dead {} place left := by
  intro e he
  exact absurd he Std.HashSet.not_mem_empty

theorem Clear.mono {place' left' : Nat} (h : Clear dead made place left) (hp : place ≤ place')
    (hl : left' ≤ left) : Clear dead made place' left' :=
  fun e he hpe hle => h e he (Nat.le_trans hp hpe) (Nat.le_trans hle hl)

theorem Clear.grows (h : Clear dead made place left) (hg : Grows dead made made') :
    Clear dead made' place left := by
  intro e he hp hl
  rcases hg e he with hm | hd
  · exact h e hm hp hl
  · exact hd

theorem mem_insert_iff {e : Nat × Nat} :
    e ∈ made.insert (place, left) ↔ (place, left) = e ∨ e ∈ made := by
  rw [Std.HashSet.mem_insert, beq_iff_eq]

theorem Clear.insert_later {place' : Nat} (h : Clear dead made place left) (hp : place < place') :
    Clear dead (made.insert (place, left)) place' left := by
  intro e he hpe hle
  rcases mem_insert_iff.mp he with rfl | hm
  · omega
  · exact h e hm (by omega) hle

theorem Clear.insert_shorter {left' : Nat} (h : Clear dead made place left) (hl : left' < left) :
    Clear dead (made.insert (place, left)) place left' := by
  intro e he hpe hle
  rcases mem_insert_iff.mp he with rfl | hm
  · omega
  · exact h e hm hpe (by omega)

/-- An attempt gives a result; if it gives none, all choices that it has made fail. -/
structure Yields (dead : Choices) (made : Made) (x : Attempt α) (r : Option α) : Prop where
  value_eq : (x made).1 = r
  grows : r = none → Grows dead made (x made).2

theorem yields_fail : Yields dead made (Attempt.fail : Attempt α) none :=
  ⟨rfl, fun _ => .refl made⟩

theorem yields_done (a : α) : Yields dead made (Attempt.done a) (some a) :=
  ⟨rfl, fun h => nomatch h⟩

theorem Yields.orElse {x y : Attempt α} {r s : Option α} (hx : Yields dead made x r)
    (hy : ∀ made', Grows dead made made' → Yields dead made' y s) :
    Yields dead made (Attempt.orElse x y) (r.or s) := by
  obtain ⟨hvalue, hgrows⟩ := hx
  unfold Attempt.orElse
  rcases hxm : x made with ⟨v, made'⟩
  rw [hxm] at hvalue hgrows
  cases v with
  | some a =>
    subst hvalue
    exact ⟨by simp [hxm], fun h => nomatch h⟩
  | none =>
    subst hvalue
    have hy' := hy made' (hgrows rfl)
    refine ⟨by simpa [hxm] using hy'.value_eq, ?_⟩
    intro hs e he
    simp only [hxm] at he
    rcases hy'.grows (by simpa using hs) e he with hm | hd
    · exact hgrows rfl e hm
    · exact .inr hd

/-- A choice may be left out where it has been made, if it fails there. -/
theorem Yields.once {x : Attempt α} {r : Option α} (hclear : Clear dead made place left)
    (hdead : dead (place, left) ↔ r = none)
    (hx : Yields dead (made.insert (place, left)) x r) :
    Yields dead made (Attempt.once place left x) r := by
  unfold Attempt.once
  cases hc : made.contains (place, left) with
  | true =>
    have hr : r = none := hdead.mp (hclear _ hc (Nat.le_refl _) (Nat.le_refl _))
    exact ⟨by simp [hc, hr], fun _ => by simpa [hc] using Grows.refl made⟩
  | false =>
    refine ⟨by simpa [hc] using hx.value_eq, ?_⟩
    intro hr e he
    simp only [hc] at he
    rcases hx.grows hr e he with hm | hd
    · rcases mem_insert_iff.mp hm with rfl | hm
      · exact .inr (hdead.mpr hr)
      · exact .inl hm
    · exact .inr hd

namespace Node

theorem run_ofParts_cons (a : Node) (l : List Node) (place : Nat) (next : Continuation α) :
    (ofParts (a :: l)).run place next =
      a.run place ((ofParts l).run (place + a.places) next) := by
  cases l with
  | nil => rfl
  | cons b l => rfl

theorem groupCount_ofParts_cons (a : Node) (l : List Node) :
    (ofParts (a :: l)).groupCount = max a.groupCount (ofParts l).groupCount := by
  cases l with
  | nil => simp [ofParts, groupCount]
  | cons b l => rfl

theorem search_anchored_of_before (l : List Node) (made : Made) (cur : Cursor)
    (h : cur.before.isSome) : (ofParts (.look .textStart :: l)).search made cur = none := by
  have hfail : ∀ cur : Cursor, cur.before.isSome → ∀ made,
      (ofParts (.look .textStart :: l)).matchAt cur made = (none, made) := by
    intro cur h made
    obtain ⟨c, hc⟩ := Option.isSome_iff_exists.mp h
    simp [matchAt, run_ofParts_cons, run, Look.holds, hc, Attempt.fail]
  obtain ⟨before, rest, left, rfl⟩ := cur
  induction rest generalizing before made with
  | nil =>
    rw [search, hfail _ h]
    rfl
  | cons c rest ih =>
    rw [search, hfail _ h]
    exact ih made (some c) rfl

/-- An anchored sequence matches at the start of a text or not at all. -/
theorem search_anchored (l : List Node) (text : List Char) :
    (ofParts (.look .textStart :: l)).search {} (.ofText text) =
      ((ofParts (.look .textStart :: l)).matchAt (.ofText text) {}).1 := by
  rw [search]
  rcases (ofParts (.look .textStart :: l)).matchAt (.ofText text) {} with ⟨_ | m, made⟩
  · cases text with
    | nil => rfl
    | cons c text => exact search_anchored_of_before l made _ rfl
  · rfl

end Node

end TemplateRouter.Regex
