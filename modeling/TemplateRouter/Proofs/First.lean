import Mathlib.Tactic.Common
/-
The first element of a list that has a property. A search stops there if the property is to have a
result, and results that are gathered in order stop there if it is to fail.
-/
namespace TemplateRouter

variable {β γ ε : Type}

/-- An element with a property that none before it has. -/
inductive IsFirst (p : β → Prop) : List β → β → Prop
  | head {b l} : p b → IsFirst p (b :: l) b
  | tail {c l b} : ¬ p c → IsFirst p l b → IsFirst p (c :: l) b

namespace IsFirst

variable {p q : β → Prop} {l : List β} {b c : β}

theorem not_nil : ¬ IsFirst p [] b := by
  intro h
  cases h

theorem mem (h : IsFirst p l b) : b ∈ l := by
  induction h with
  | head _ => exact List.mem_cons_self
  | tail _ _ ih => exact List.mem_cons_of_mem _ ih

theorem holds (h : IsFirst p l b) : p b := by
  induction h with
  | head hb => exact hb
  | tail _ _ ih => exact ih

theorem cons_iff : IsFirst p (c :: l) b ↔ (c = b ∧ p c) ∨ (¬ p c ∧ IsFirst p l b) := by
  constructor
  · intro h
    cases h with
    | head hb => exact .inl ⟨rfl, hb⟩
    | tail hc h => exact .inr ⟨hc, h⟩
  · rintro (⟨rfl, hc⟩ | ⟨hc, h⟩)
    · exact .head hc
    · exact .tail hc h

theorem unique (hb : IsFirst p l b) (hc : IsFirst p l c) : b = c := by
  induction hb with
  | head hp =>
    cases hc with
    | head _ => rfl
    | tail hnot _ => exact absurd hp hnot
  | tail hnot _ ih =>
    cases hc with
    | head hp => exact absurd hp hnot
    | tail _ hc => exact ih hc

theorem exists_of_mem (hb : b ∈ l) (hp : p b) : ∃ b, IsFirst p l b := by
  induction l with
  | nil => cases hb
  | cons c l ih =>
    by_cases hc : p c
    · exact ⟨c, .head hc⟩
    · rcases List.mem_cons.mp hb with rfl | hb
      · exact absurd hp hc
      · obtain ⟨d, hd⟩ := ih hb
        exact ⟨d, .tail hc hd⟩

theorem congr (h : ∀ b ∈ l, p b ↔ q b) : IsFirst p l b ↔ IsFirst q l b := by
  induction l with
  | nil => exact iff_of_false not_nil not_nil
  | cons c l ih =>
    rw [List.forall_mem_cons] at h
    rw [cons_iff, cons_iff, h.1, ih h.2]

theorem map_iff {g : γ → β} {l : List γ} :
    IsFirst p (l.map g) b ↔ ∃ c, IsFirst (fun c => p (g c)) l c ∧ g c = b := by
  induction l with
  | nil =>
    refine iff_of_false not_nil ?_
    rintro ⟨c, h, -⟩
    exact not_nil h
  | cons d l ih =>
    rw [List.map_cons, cons_iff, ih]
    constructor
    · rintro (⟨rfl, hd⟩ | ⟨hd, c, hc, rfl⟩)
      · exact ⟨d, .head hd, rfl⟩
      · exact ⟨c, .tail hd hc, rfl⟩
    · rintro ⟨c, hc, rfl⟩
      rcases cons_iff.mp hc with ⟨rfl, hd⟩ | ⟨hd, hc⟩
      · exact .inl ⟨rfl, hd⟩
      · exact .inr ⟨hd, c, hc, rfl⟩

/-- Behind elements without the property an element of its own is first. -/
theorem concat_iff (h : ∀ d ∈ l, ¬ p d) : IsFirst p (l ++ [c]) b ↔ c = b ∧ p c := by
  induction l with
  | nil =>
    rw [List.nil_append, cons_iff, or_iff_left]
    rintro ⟨-, h⟩
    exact not_nil h
  | cons d l ih =>
    rw [List.forall_mem_cons] at h
    rw [List.cons_append, cons_iff, ih h.2, or_iff_right (fun hd => h.1 hd.2), and_iff_right h.1]

end IsFirst

section Searching

variable {f : β → Option γ} {l : List β} {c : γ}

theorem findSome?_eq_some_iff_isFirst :
    l.findSome? f = some c ↔ ∃ b, IsFirst (fun b => (f b).isSome) l b ∧ f b = some c := by
  induction l with
  | nil =>
    refine iff_of_false nofun ?_
    rintro ⟨b, h, -⟩
    exact IsFirst.not_nil h
  | cons d l ih =>
    simp only [List.findSome?_cons, IsFirst.cons_iff]
    cases hd : f d with
    | none => simp [ih]
    | some c' => simp [hd]

/-- A filter that keeps what a search stops at does not change what it finds. -/
theorem findSome?_filter {p : β → Bool}
    (h : ∀ b c, l.findSome? f = some c → f b = some c → p b) :
    (l.filter p).findSome? f = l.findSome? f := by
  cases hfound : l.findSome? f with
  | none =>
    rw [List.findSome?_eq_none_iff] at hfound ⊢
    intro b hb
    exact hfound b (List.mem_filter.mp hb).1
  | some c =>
    have hkept := fun b => h b c hfound
    obtain ⟨before, b, after, rfl, hb, hbefore⟩ := List.findSome?_eq_some_iff.mp hfound
    rw [List.filter_append, List.filter_cons_of_pos (hkept b hb), List.findSome?_eq_some_iff]
    exact ⟨_, b, _, rfl, hb, fun d hd => hbefore d (List.mem_filter.mp hd).1⟩

end Searching

section Gathering

variable {f : β → Except ε γ} {l : List β}

theorem exists_ok_iff {x : Except ε γ} : (∃ c, x = .ok c) ↔ ¬ ∃ e, x = .error e := by
  cases x <;> simp

theorem mapM_cons_eq_error_iff {b : β} {e : ε} :
    (b :: l).mapM f = .error e ↔ f b = .error e ∨ (∃ c, f b = .ok c) ∧ l.mapM f = .error e := by
  rw [List.mapM_cons]
  cases f b with
  | error e' => simp [bind, Except.bind]
  | ok c => cases l.mapM f <;> simp [bind, Except.bind, pure, Except.pure]

/-- Results are gathered up to the first error, which becomes the error of the whole. -/
theorem mapM_eq_error_iff {e : ε} :
    l.mapM f = .error e ↔ ∃ b, IsFirst (fun b => ∃ e, f b = .error e) l b ∧ f b = .error e := by
  induction l with
  | nil =>
    refine iff_of_false nofun ?_
    rintro ⟨b, h, -⟩
    exact IsFirst.not_nil h
  | cons c l ih =>
    rw [mapM_cons_eq_error_iff, ih, exists_ok_iff]
    constructor
    · rintro (hc | ⟨hc, b, hfirst, hb⟩)
      · exact ⟨c, .head ⟨e, hc⟩, hc⟩
      · exact ⟨b, .tail hc hfirst, hb⟩
    · rintro ⟨b, hfirst, hb⟩
      cases hfirst with
      | head _ => exact .inl hb
      | tail hc hfirst => exact .inr ⟨hc, b, hfirst, hb⟩

end Gathering

end TemplateRouter
