import Mathlib.Tactic.Common
import TemplateRouter.Template
/-
Escaping keeps placeholders aligned: to substitute in escaped text is to read the tokens.
-/
namespace TemplateRouter.Template

open Regex (isMeta escapeText)

/-- What a token contributes to the regular expression. -/
def Token.source : Token → List Char
  | char c => escapeText [c]
  | placeholder _ => segmentCapture

def Token.name? : Token → Option (List Char)
  | char _ => none
  | placeholder name => some name

def names (ts : List Token) : List (List Char) := ts.filterMap Token.name?

@[simp] theorem names_nil : names [] = [] := rfl

@[simp] theorem names_char (c : Char) (ts : List Token) : names (.char c :: ts) = names ts := rfl

@[simp] theorem names_placeholder (name : List Char) (ts : List Token) :
    names (.placeholder name :: ts) = name :: names ts := rfl

theorem tokens_placeholder {t name rest : List Char} (h : placeholder? t = some (name, rest)) :
    tokens t = .placeholder name :: tokens rest := by
  rw [tokens]
  split <;> simp_all

theorem tokens_char {c : Char} {t : List Char} (h : placeholder? (c :: t) = none) :
    tokens (c :: t) = .char c :: tokens t := by
  rw [tokens]
  split <;> simp_all

@[simp] theorem tokens_nil : tokens [] = [] := by
  rw [tokens]
  split <;> simp_all [placeholder?]

theorem substitute_placeholder {t name rest : List Char}
    (h : escapedPlaceholder? t = some (name, rest)) :
    substitute t = (segmentCapture ++ (substitute rest).1, name :: (substitute rest).2) := by
  rw [substitute]
  split <;> simp_all

theorem substitute_char {c : Char} {t : List Char} (h : escapedPlaceholder? (c :: t) = none) :
    substitute (c :: t) = (c :: (substitute t).1, (substitute t).2) := by
  rw [substitute]
  split <;> simp_all

@[simp] theorem substitute_nil : substitute [] = ([], []) := by
  rw [substitute]
  split <;> simp_all [escapedPlaceholder?]

theorem isMeta_of_isNameChar {c : Char} (h : isNameChar c = true) : isMeta c = false := by
  rw [Bool.eq_false_iff]
  intro hm
  have hall : "\\.+*?()|[]\x7b\x7d^$#&-~".toList.all (fun d => !isNameChar d) := by decide
  rw [isMeta, List.contains_iff_mem] at hm
  have hno := List.all_eq_true.mp hall c hm
  simp [h] at hno

theorem escapeText_cons_of_isMeta {c : Char} (h : isMeta c = true) (t : List Char) :
    escapeText (c :: t) = '\\' :: c :: escapeText t := by
  simp [Regex.escapeText_cons, h]

theorem escapeText_cons_of_not_isMeta {c : Char} (h : isMeta c = false) (t : List Char) :
    escapeText (c :: t) = c :: escapeText t := by
  simp [Regex.escapeText_cons, h]

theorem takeWhile_escapeText (t : List Char) :
    (escapeText t).takeWhile isNameChar = t.takeWhile isNameChar := by
  induction t with
  | nil => rfl
  | cons c t ih =>
    cases hm : isMeta c with
    | false => simp only [escapeText_cons_of_not_isMeta hm, List.takeWhile_cons, ih]
    | true =>
      have hn : isNameChar c = false := by
        by_contra hn
        simp [isMeta_of_isNameChar (by simpa using hn)] at hm
      have hb : isNameChar '\\' = false := by decide
      simp [escapeText_cons_of_isMeta hm, hn, hb]

theorem dropWhile_escapeText (t : List Char) :
    (escapeText t).dropWhile isNameChar = escapeText (t.dropWhile isNameChar) := by
  induction t with
  | nil => rfl
  | cons c t ih =>
    cases hn : isNameChar c with
    | true =>
      simp only [escapeText_cons_of_not_isMeta (isMeta_of_isNameChar hn), List.dropWhile_cons, hn,
        if_true, ih]
    | false =>
      have hb : isNameChar '\\' = false := by decide
      cases hm : isMeta c with
      | true => simp [escapeText_cons_of_isMeta hm, hn, hb]
      | false => simp [escapeText_cons_of_not_isMeta hm, hn]

theorem escapedPlaceholder?_of_ne {c : Char} (h : c ≠ '\\') (t : List Char) :
    escapedPlaceholder? (c :: t) = none := by
  unfold escapedPlaceholder?
  split
  · next heq => exact absurd (List.cons.inj heq).1 h
  · rfl

theorem escapeText_ne_brace (t u : List Char) : escapeText t ≠ '{' :: u := by
  cases t with
  | nil => simp
  | cons c t =>
    cases hm : isMeta c with
    | true => simp [escapeText_cons_of_isMeta hm]
    | false =>
      rw [escapeText_cons_of_not_isMeta hm]
      rintro ⟨rfl, -⟩
      exact absurd hm (by decide)

theorem escapedPlaceholder?_backslash_escapeText (t : List Char) :
    escapedPlaceholder? ('\\' :: escapeText t) = none := by
  unfold escapedPlaceholder?
  split
  · next heq => exact absurd (List.cons.inj heq).2 (escapeText_ne_brace t _)
  · rfl

theorem escapeText_eq_escaped {c : Char} {t u : List Char}
    (h : escapeText t = '\\' :: c :: u) : ∃ rest, t = c :: rest ∧ u = escapeText rest := by
  cases t with
  | nil => simp at h
  | cons d t =>
    cases hm : isMeta d with
    | true =>
      rw [escapeText_cons_of_isMeta hm] at h
      simp only [List.cons.injEq, true_and] at h
      exact ⟨t, by rw [h.1], h.2.symm⟩
    | false =>
      rw [escapeText_cons_of_not_isMeta hm] at h
      have hb : isMeta '\\' = true := by decide
      simp [(List.cons.inj h).1, hb] at hm

theorem placeholder?_eq_some_iff {t name rest : List Char} :
    placeholder? t = some (name, rest) ↔
      ∃ cs, t = '{' :: cs ∧ name ≠ [] ∧ cs.takeWhile isNameChar = name ∧
        cs.dropWhile isNameChar = '}' :: rest := by
  constructor
  · intro h
    unfold placeholder? at h
    split at h
    · next cs =>
      split at h
      · next htake hdrop =>
        simp only [Option.some.injEq, Prod.mk.injEq] at h
        exact ⟨cs, rfl, by simp [← h.1], by rw [htake, h.1], by rw [hdrop, h.2]⟩
      · cases h
    · cases h
  · rintro ⟨cs, rfl, hne, htake, hdrop⟩
    obtain ⟨c, name, rfl⟩ := List.exists_cons_of_ne_nil hne
    simp [placeholder?, htake, hdrop]

theorem escapedPlaceholder?_eq_some_iff {t name rest : List Char} :
    escapedPlaceholder? t = some (name, rest) ↔
      ∃ cs, t = '\\' :: '{' :: cs ∧ name ≠ [] ∧ cs.takeWhile isNameChar = name ∧
        cs.dropWhile isNameChar = '\\' :: '}' :: rest := by
  constructor
  · intro h
    unfold escapedPlaceholder? at h
    split at h
    · next cs =>
      split at h
      · next htake hdrop =>
        simp only [Option.some.injEq, Prod.mk.injEq] at h
        exact ⟨cs, rfl, by simp [← h.1], by rw [htake, h.1], by rw [hdrop, h.2]⟩
      · cases h
    · cases h
  · rintro ⟨cs, rfl, hne, htake, hdrop⟩
    obtain ⟨c, name, rfl⟩ := List.exists_cons_of_ne_nil hne
    simp [escapedPlaceholder?, htake, hdrop]

theorem escapedPlaceholder?_escapeText (t : List Char) :
    escapedPlaceholder? (escapeText t) =
      (placeholder? t).map fun (name, rest) => (name, escapeText rest) := by
  refine Option.ext fun (name, rest) => ?_
  simp only [escapedPlaceholder?_eq_some_iff, Option.map_eq_some_iff, Prod.exists, Prod.mk.injEq,
    placeholder?_eq_some_iff]
  constructor
  · rintro ⟨cs, ht, hne, htake, hdrop⟩
    obtain ⟨us, rfl, rfl⟩ := escapeText_eq_escaped ht
    rw [takeWhile_escapeText] at htake
    rw [dropWhile_escapeText] at hdrop
    obtain ⟨vs, hvs, rfl⟩ := escapeText_eq_escaped hdrop
    exact ⟨name, vs, ⟨us, rfl, hne, htake, hvs⟩, rfl, rfl⟩
  · rintro ⟨_, vs, ⟨us, rfl, hne, htake, hdrop⟩, rfl, rfl⟩
    refine ⟨escapeText us, escapeText_cons_of_isMeta (by decide) us, hne, ?_, ?_⟩
    · rw [takeWhile_escapeText, htake]
    · rw [dropWhile_escapeText, hdrop, escapeText_cons_of_isMeta (by decide)]

/-- Substituting in the escaped text gives what the tokens contribute, and their names. -/
theorem substitute_escapeText (t : List Char) :
    substitute (escapeText t) = ((tokens t).flatMap Token.source, names (tokens t)) := by
  fun_induction tokens t with
  | case1 t name rest h ih =>
    have h' : escapedPlaceholder? (escapeText t) = some (name, escapeText rest) := by
      rw [escapedPlaceholder?_escapeText, h, Option.map_some]
    rw [substitute_placeholder h', ih]
    rfl
  | case2 h => simp
  | case3 c rest h ih =>
    have h' : escapedPlaceholder? (escapeText (c :: rest)) = none := by
      rw [escapedPlaceholder?_escapeText, h, Option.map_none]
    cases hm : isMeta c with
    | false =>
      rw [escapeText_cons_of_not_isMeta hm] at h' ⊢
      simp [substitute_char h', ih, Token.source, escapeText_cons_of_not_isMeta hm]
    | true =>
      -- Two characters stand for `c`, and no placeholder starts at either of them.
      rw [escapeText_cons_of_isMeta hm] at h' ⊢
      have h'' : escapedPlaceholder? (c :: escapeText rest) = none := by
        by_cases hc : c = '\\'
        · rw [hc, escapedPlaceholder?_backslash_escapeText]
        · exact escapedPlaceholder?_of_ne hc _
      simp [substitute_char h', substitute_char h'', ih, Token.source,
        escapeText_cons_of_isMeta hm]

theorem source_eq (t : List Char) :
    source t = '^' :: (tokens t).flatMap Token.source ++ ['$'] := by
  rw [source, substitute_escapeText]

theorem keys_eq (t : List Char) : keys t = names (tokens t) := by
  rw [keys, substitute_escapeText]

theorem takeWhile_dropWhile_iff {cs name rest : List Char} {d : Char}
    (hd : isNameChar d = false) :
    cs.takeWhile isNameChar = name ∧ cs.dropWhile isNameChar = d :: rest ↔
      (∀ c ∈ name, isNameChar c) ∧ cs = name ++ d :: rest := by
  constructor
  · rintro ⟨rfl, hdrop⟩
    refine ⟨List.all_eq_true.mp List.all_takeWhile, ?_⟩
    rw [← hdrop, List.takeWhile_append_dropWhile]
  · rintro ⟨hname, rfl⟩
    rw [List.takeWhile_append_of_pos hname, List.dropWhile_append_of_pos hname]
    simp [hd]

theorem placeholder?_eq_some_iff_append {t name rest : List Char} :
    placeholder? t = some (name, rest) ↔
      name ≠ [] ∧ (∀ c ∈ name, isNameChar c) ∧ t = '{' :: (name ++ '}' :: rest) := by
  have hclosing : isNameChar '}' = false := by decide
  rw [placeholder?_eq_some_iff]
  constructor
  · rintro ⟨cs, rfl, hne, hspan⟩
    obtain ⟨hname, rfl⟩ := (takeWhile_dropWhile_iff hclosing).mp hspan
    exact ⟨hne, hname, rfl⟩
  · rintro ⟨hne, hname, rfl⟩
    exact ⟨_, rfl, hne, (takeWhile_dropWhile_iff hclosing).mpr ⟨hname, rfl⟩⟩

/-- A template cut from left to right: a placeholder is cut out where one starts, and any other
character is literal. -/
inductive Cut : List Char → List Token → Prop
  | nil : Cut [] []
  | placeholder {name rest ts} : name ≠ [] → (∀ c ∈ name, isNameChar c) → Cut rest ts →
      Cut ('{' :: (name ++ '}' :: rest)) (.placeholder name :: ts)
  | char {c t ts} : (∀ name rest, name ≠ [] → (∀ d ∈ name, isNameChar d) →
      c :: t ≠ '{' :: (name ++ '}' :: rest)) → Cut t ts → Cut (c :: t) (.char c :: ts)

theorem cut_iff {t : List Char} {ts : List Token} : Cut t ts ↔ ts = tokens t := by
  constructor
  · intro h
    induction h with
    | nil => rw [tokens_nil]
    | placeholder hne hname _ ih =>
      rw [tokens_placeholder (placeholder?_eq_some_iff_append.mpr ⟨hne, hname, rfl⟩), ih]
    | @char c t ts hno _ ih =>
      have hnone : placeholder? (c :: t) = none := by
        rw [Option.eq_none_iff_forall_ne_some]
        rintro ⟨name, rest⟩ h
        obtain ⟨hne, hname, heq⟩ := placeholder?_eq_some_iff_append.mp h
        exact hno name rest hne hname heq
      rw [tokens_char hnone, ih]
  · rintro rfl
    fun_induction tokens t with
    | case1 t name rest h ih =>
      obtain ⟨hne, hname, rfl⟩ := placeholder?_eq_some_iff_append.mp h
      exact .placeholder hne hname ih
    | case2 h => exact .nil
    | case3 c rest h ih =>
      refine .char ?_ ih
      intro name rest' hne hname heq
      rw [placeholder?_eq_some_iff_append.mpr ⟨hne, hname, heq⟩] at h
      cases h

end TemplateRouter.Template
