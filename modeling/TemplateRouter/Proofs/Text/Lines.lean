import Mathlib.Tactic.Common
import Mathlib.Data.List.TakeWhile
import TemplateRouter.Text
/-
Lists cut at separators and texts cut at white space. Each has one such cut, and the program makes
that one.
-/
namespace TemplateRouter.Text

section Split

variable {α : Type} [BEq α] {sep : α} {l : List α} {parts : List (List α)}

/-- Parts that have no separator in them and make up a list with one between each two of them. -/
structure Splits (sep : α) (l : List α) (parts : List (List α)) : Prop where
  ne_nil : parts ≠ []
  no_sep : ∀ part ∈ parts, sep ∉ part
  joined : List.intercalate [sep] parts = l

theorem splitOn_cons (sep a : α) (l : List α) :
    splitOn sep (a :: l) =
      if a == sep then [] :: splitOn sep l else (splitOn sep l).modifyHead (a :: ·) := by
  rw [splitOn]
  cases h : splitOn sep l with
  | nil => exact absurd h (splitOn_ne_nil sep l)
  | cons part parts => rfl

theorem splitOn_eq (sep : α) (l : List α) : splitOn sep l = List.splitOn sep l := by
  induction l with
  | nil => rw [splitOn, List.splitOn_nil]
  | cons a l ih =>
    rw [splitOn_cons, ih, List.splitOn, List.splitOn, List.splitOnP_cons_eq_if_modifyHead]

variable [LawfulBEq α]

theorem not_mem_of_mem_splitOn {part : List α} (h : part ∈ splitOn sep l) : sep ∉ part := by
  induction l generalizing part with
  | nil =>
    rw [splitOn, List.mem_singleton] at h
    rw [h]
    exact List.not_mem_nil
  | cons a l ih =>
    rw [splitOn_cons] at h
    split_ifs at h with ha
    · rcases List.mem_cons.mp h with rfl | h
      · exact List.not_mem_nil
      · exact ih h
    · cases hparts : splitOn sep l with
      | nil => exact absurd hparts (splitOn_ne_nil sep l)
      | cons first parts =>
        rw [hparts] at h ih
        rw [List.modifyHead_cons] at h
        rcases List.mem_cons.mp h with rfl | h
        · -- The part that the element joins had no separator, and the element is none.
          rw [List.mem_cons, not_or]
          exact ⟨fun heq => ha (beq_iff_eq.mpr heq.symm), ih List.mem_cons_self⟩
        · exact ih (List.mem_cons_of_mem _ h)

theorem splits_iff : Splits sep l parts ↔ splitOn sep l = parts := by
  constructor
  · intro h
    rw [splitOn_eq, ← h.joined]
    exact List.splitOn_intercalate sep h.no_sep h.ne_nil
  · rintro rfl
    refine ⟨splitOn_ne_nil sep l, fun _ => not_mem_of_mem_splitOn, ?_⟩
    rw [splitOn_eq, List.intercalate_splitOn]

end Split

section Trim

variable {text trimmed : List Char}

/-- What is left of a text when all white space at its two ends is cut off. -/
structure Trims (text trimmed : List Char) : Prop where
  cut : ∃ before after, text = before ++ trimmed ++ after ∧
    (∀ c ∈ before, isBlank c) ∧ ∀ c ∈ after, isBlank c
  front : ∀ c, trimmed.head? = some c → isBlank c = false
  back : ∀ c, trimmed.getLast? = some c → isBlank c = false

theorem head_dropWhile {c : Char} (h : (text.dropWhile isBlank).head? = some c) :
    isBlank c = false := by
  have hhead := List.head?_dropWhile_not isBlank text
  rw [h] at hhead
  exact hhead

theorem dropWhile_append {before rest : List Char} (hbefore : ∀ c ∈ before, isBlank c)
    (hrest : ∀ c, rest.head? = some c → isBlank c = false) :
    (before ++ rest).dropWhile isBlank = rest := by
  rw [List.dropWhile_append_of_pos hbefore]
  cases rest with
  | nil => rfl
  | cons c rest =>
    have hc : ¬ isBlank c = true := by rw [hrest c rfl]; exact Bool.false_ne_true
    rw [List.dropWhile_cons_of_neg hc]

theorem trims_trim (text : List Char) : Trims text (trim text) := by
  have hfront := List.takeWhile_append_dropWhile (p := isBlank) (l := text)
  have hback := List.takeWhile_append_dropWhile (p := isBlank)
    (l := (text.dropWhile isBlank).reverse)
  have hrest : text.dropWhile isBlank =
      trim text ++ ((text.dropWhile isBlank).reverse.takeWhile isBlank).reverse := by
    rw [trim, ← List.reverse_append, hback, List.reverse_reverse]
  refine ⟨⟨text.takeWhile isBlank, ((text.dropWhile isBlank).reverse.takeWhile isBlank).reverse,
    ?_, ?_, ?_⟩, ?_, ?_⟩
  · rw [List.append_assoc, ← hrest, hfront]
  · intro c hc
    exact List.mem_takeWhile_imp hc
  · intro c hc
    exact List.mem_takeWhile_imp (List.mem_reverse.mp hc)
  · intro c hc
    have hhead : (text.dropWhile isBlank).head? = some c := by
      rw [hrest, List.head?_append, hc, Option.some_or]
    exact head_dropWhile hhead
  · intro c hc
    rw [trim, List.getLast?_reverse] at hc
    exact head_dropWhile hc

theorem trims_iff : Trims text trimmed ↔ trim text = trimmed := by
  constructor
  · rintro ⟨⟨before, after, rfl, hbefore, hafter⟩, hfront, hback⟩
    have hafter' : ∀ c ∈ after.reverse, isBlank c := fun c hc => hafter c (List.mem_reverse.mp hc)
    cases trimmed with
    | nil =>
      -- All of the text is white space.
      have hall : ∀ c ∈ before ++ after, isBlank c := by
        intro c hc
        exact (List.mem_append.mp hc).elim (hbefore c) (hafter c)
      have hnone : (before ++ after ++ []).dropWhile isBlank = [] := dropWhile_append hall nofun
      rw [List.append_nil] at hnone
      rw [List.append_nil, trim, hnone]
      rfl
    | cons c rest =>
      have hdropped : (before ++ (c :: rest ++ after)).dropWhile isBlank = c :: rest ++ after := by
        apply dropWhile_append hbefore
        intro c' hc'
        exact hfront c' hc'
      rw [List.append_assoc, trim, hdropped, List.reverse_append, dropWhile_append hafter',
        List.reverse_reverse]
      intro c' hc'
      rw [List.head?_reverse] at hc'
      exact hback c' hc'
  · rintro rfl
    exact trims_trim text

end Trim

end TemplateRouter.Text
