import Mathlib.Tactic.Common
import TemplateRouter.Json
/-
The text of a JSON value is one line: whatever its strings and keys hold, no control character is
written.
-/
namespace TemplateRouter

/-- Characters none of which is a control character below the blank. -/
def Printable (cs : List Char) : Prop := ∀ c ∈ cs, 32 ≤ c.toNat

instance (cs : List Char) : Decidable (Printable cs) :=
  decidable_of_iff (cs.all fun c => decide (32 ≤ c.toNat)) (by simp [Printable])

namespace Printable

variable {cs ds : List Char} {c : Char}

@[simp] theorem nil : Printable [] := nofun

@[simp] theorem cons_iff : Printable (c :: cs) ↔ 32 ≤ c.toNat ∧ Printable cs :=
  List.forall_mem_cons

@[simp] theorem append_iff : Printable (cs ++ ds) ↔ Printable cs ∧ Printable ds :=
  List.forall_mem_append

theorem take (h : Printable cs) (n : Nat) : Printable (cs.take n) :=
  fun c hc => h c (List.mem_of_mem_take hc)

theorem drop (h : Printable cs) (n : Nat) : Printable (cs.drop n) :=
  fun c hc => h c (List.mem_of_mem_drop hc)

theorem replicate (n : Nat) (h : 32 ≤ c.toNat) : Printable (List.replicate n c) := by
  intro c' hc'
  rw [List.eq_of_mem_replicate hc']
  exact h

theorem flatMap {β : Type} {f : β → List Char} {l : List β} (h : ∀ b ∈ l, Printable (f b)) :
    Printable (l.flatMap f) := by
  intro c hc
  obtain ⟨b, hb, hc⟩ := List.mem_flatMap.mp hc
  exact h b hb c hc

theorem newline_not_mem (h : Printable cs) : '\n' ∉ cs := by
  intro hmem
  exact absurd (h _ hmem) (by decide)

end Printable

namespace Json

theorem printable_decimalDigits (n : Nat) : Printable (decimalDigits n) := by
  intro c hc
  have hdigit := Nat.isDigit_of_mem_toDigits (by decide) (by decide) hc
  rw [Char.isDigit, Bool.and_eq_true, decide_eq_true_eq] at hdigit
  exact Nat.le_trans (by decide) hdigit.1

theorem printable_layout (d : Decimal) : Printable (layout d) := by
  have hdigits := printable_decimalDigits d.digits
  have hzeros := fun n => Printable.replicate (c := '0') n (by decide)
  unfold layout
  dsimp only
  split_ifs
  · simp only [Printable.append_iff, Printable.cons_iff, Printable.nil, hdigits, hzeros]
    decide
  · simp only [Printable.append_iff, Printable.cons_iff, Printable.nil, hdigits, hzeros]
    decide
  · simp only [Printable.append_iff, Printable.cons_iff, hdigits.take, hdigits.drop]
    decide
  all_goals
    have hexponent := printable_decimalDigits
      (d.exponent + (decimalDigits d.digits).length - 1).natAbs
    simp only [Printable.append_iff, Printable.cons_iff, hdigits.take, hexponent, and_true,
      true_and]
    refine ⟨?_, by decide⟩
    split
    · exact Printable.nil
    · exact Printable.cons_iff.mpr ⟨by decide, hdigits.drop 1⟩

theorem printable_renderFloat (x : Float) : Printable (renderFloat x) := by
  unfold renderFloat
  dsimp only
  split_ifs
  · decide
  · exact Printable.cons_iff.mpr ⟨by decide, printable_layout _⟩
  · exact printable_layout _

theorem printable_renderInt (n : Int) : Printable (renderInt n) := by
  unfold renderInt
  split_ifs
  · exact Printable.cons_iff.mpr ⟨by decide, printable_decimalDigits _⟩
  · exact printable_decimalDigits _

theorem le_hexDigit : ∀ n < 16, 32 ≤ (hexDigit n).toNat := by decide +kernel

theorem printable_renderChar (c : Char) : Printable (renderChar c) := by
  unfold renderChar
  split
  -- The characters with an escape of their own come first.
  all_goals try decide
  split_ifs with hc
  · have hhigh := le_hexDigit (c.toNat / 16) (by omega)
    have hlow := le_hexDigit (c.toNat % 16) (by omega)
    simp only [Printable.cons_iff, Printable.nil, hhigh, hlow, and_true]
    decide
  · exact Printable.cons_iff.mpr ⟨Nat.le_of_not_lt hc, Printable.nil⟩

theorem printable_renderString (s : String) : Printable (renderString s) := by
  have hchars : Printable (s.toList.flatMap renderChar) :=
    Printable.flatMap fun c _ => printable_renderChar c
  simp only [renderString, Printable.cons_iff, Printable.append_iff, Printable.nil, hchars]
  decide

mutual

theorem printable_render : (v : Json) → Printable v.render
  | null => by
    rw [render]
    decide
  | bool true => by
    rw [render]
    decide
  | bool false => by
    rw [render]
    decide
  | int n => by
    rw [render]
    exact printable_renderInt n
  | float x => by
    rw [render]
    exact printable_renderFloat x
  | string s => by
    rw [render]
    exact printable_renderString s
  | array items => by
    simp only [render, Printable.cons_iff, Printable.append_iff, Printable.nil,
      printable_renderItems items]
    decide
  | object members => by
    simp only [render, Printable.cons_iff, Printable.append_iff, Printable.nil,
      printable_renderMembers members]
    decide

theorem printable_renderItems : (items : List Json) → Printable (renderItems items)
  | [] => Printable.nil
  | [v] => by
    rw [renderItems]
    exact printable_render v
  | v :: w :: rest => by
    simp only [renderItems, Printable.cons_iff, Printable.append_iff, printable_render v,
      printable_renderItems (w :: rest)]
    decide

theorem printable_renderMembers :
    (members : List (String × Json)) → Printable (renderMembers members)
  | [] => Printable.nil
  | [(k, v)] => by
    simp only [renderMembers, Printable.cons_iff, Printable.append_iff, printable_renderString k,
      printable_render v]
    decide
  | (k, v) :: m :: rest => by
    simp only [renderMembers, Printable.cons_iff, Printable.append_iff, printable_renderString k,
      printable_render v, printable_renderMembers (m :: rest)]
    decide

end

theorem newline_not_mem_text (v : Json) : '\n' ∉ v.text.toList := by
  rw [text, String.toList_ofList]
  exact (printable_render v).newline_not_mem

end Json

end TemplateRouter
