import Mathlib.Data.List.Forall2
import Mathlib.Data.Nat.Digits.Defs
import Mathlib.Tactic.Common
import Mathlib.Tactic.Ring
import TemplateRouter.Text
/-
Numerals and the numbers they stand for. A numeral is read as exactly its number, or as nothing if
that is not less than the bound, however many digits it has.
-/
namespace TemplateRouter.Text.Numeral

/-- A digit of a base up to sixteen and its value; letters may be of either case. -/
structure IsDigit (base : Nat) (c : Char) (v : Nat) : Prop where
  lt : v < base
  eq_or : c = Nat.digitChar v ∨ c = (Nat.digitChar v).toUpper

/-- Digits, the first of which counts most, and the number they stand for. -/
def Denotes (base : Nat) (ds : List Char) (n : Nat) : Prop :=
  ∃ vs, List.Forall₂ (IsDigit base) ds vs ∧ Nat.ofDigits base vs.reverse = n

/-- At least one digit, perhaps behind a plus sign. -/
def Writes (base : Nat) (cs : List Char) (n : Nat) : Prop :=
  ∃ ds, (cs = ds ∨ cs = '+' :: ds) ∧ ds ≠ [] ∧ Denotes base ds n

variable {base bound value n v : Nat} {c : Char} {cs ds : List Char}

theorem hexDigit?_digitChar : ∀ v < 16, hexDigit? (Nat.digitChar v) = some v ∧
    hexDigit? (Nat.digitChar v).toUpper = some v := by
  decide

theorem ofNat_digit :
    (∀ v < 10, Char.ofNat (48 + v) = Nat.digitChar v) ∧
    (∀ v < 6, Char.ofNat (97 + v) = Nat.digitChar (10 + v)) ∧
    ∀ v < 6, Char.ofNat (65 + v) = (Nat.digitChar (10 + v)).toUpper := by
  decide

theorem exists_ofNat {lo hi : Char} (h : lo ≤ c ∧ c ≤ hi) :
    ∃ v ≤ hi.toNat - lo.toNat, c.toNat = lo.toNat + v ∧ c = Char.ofNat (lo.toNat + v) := by
  have hlo : lo.toNat ≤ c.toNat := h.1
  have hhi : c.toNat ≤ hi.toNat := h.2
  refine ⟨c.toNat - lo.toNat, by omega, by omega, ?_⟩
  rw [Nat.add_sub_cancel' hlo, Char.ofNat_toNat]

theorem eq_or_of_hexDigit? (h : hexDigit? c = some v) :
    v < 16 ∧ (c = Nat.digitChar v ∨ c = (Nat.digitChar v).toUpper) := by
  obtain ⟨hdecimal, hsmall, hcapital⟩ := ofNat_digit
  unfold hexDigit? at h
  split at h
  · next hc =>
    obtain ⟨w, hw, hval, hchar⟩ := exists_ofNat hc
    change w ≤ 9 at hw
    change c.toNat = 48 + w at hval
    change c = Char.ofNat (48 + w) at hchar
    obtain rfl : w = v := by
      rw [hval, Option.some.injEq] at h
      omega
    exact ⟨by omega, .inl (hchar.trans (hdecimal w (by omega)))⟩
  · split at h
    · next hc =>
      obtain ⟨w, hw, hval, hchar⟩ := exists_ofNat hc
      change w ≤ 5 at hw
      change c.toNat = 97 + w at hval
      change c = Char.ofNat (97 + w) at hchar
      obtain rfl : 10 + w = v := by
        rw [hval, Option.some.injEq] at h
        omega
      exact ⟨by omega, .inl (hchar.trans (hsmall w (by omega)))⟩
    · split at h
      · next hc =>
        obtain ⟨w, hw, hval, hchar⟩ := exists_ofNat hc
        change w ≤ 5 at hw
        change c.toNat = 65 + w at hval
        change c = Char.ofNat (65 + w) at hchar
        obtain rfl : 10 + w = v := by
          rw [hval, Option.some.injEq] at h
          omega
        exact ⟨by omega, .inr (hchar.trans (hcapital w (by omega)))⟩
      · cases h

theorem digit?_eq_some_iff (hbase : base ≤ 16) : digit? base c = some v ↔ IsDigit base c v := by
  rw [digit?, Option.filter_eq_some_iff, decide_eq_true_eq]
  constructor
  · rintro ⟨h, hlt⟩
    exact ⟨hlt, (eq_or_of_hexDigit? h).2⟩
  · rintro ⟨hlt, h⟩
    have hdigit := hexDigit?_digitChar v (by omega)
    refine ⟨?_, hlt⟩
    rcases h with rfl | rfl
    · exact hdigit.1
    · exact hdigit.2

theorem accumulate_cons_eq_some_iff (hbase : base ≤ 16) :
    accumulate base bound value (c :: cs) = some n ↔
      ∃ v, IsDigit base c v ∧ value * base + v < bound ∧
        accumulate base bound (value * base + v) cs = some n := by
  simp only [accumulate, Option.bind_eq_some_iff, digit?_eq_some_iff hbase,
    Option.ite_none_right_eq_some]

theorem accumulate_eq_some_iff (hbase : 0 < base ∧ base ≤ 16) (hvalue : value < bound) :
    accumulate base bound value cs = some n ↔
      (∃ vs, List.Forall₂ (IsDigit base) cs vs ∧
        value * base ^ vs.length + Nat.ofDigits base vs.reverse = n) ∧ n < bound := by
  induction cs generalizing value with
  | nil =>
    rw [accumulate, Option.some.injEq]
    constructor
    · rintro rfl
      exact ⟨⟨[], .nil, by simp⟩, hvalue⟩
    · rintro ⟨⟨vs, hvs, h⟩, -⟩
      cases hvs
      simpa using h
  | cons c cs ih =>
    rw [accumulate_cons_eq_some_iff hbase.2]
    -- Horner's rule: the digit counts once for each place behind it.
    have horner : ∀ v (vs : List Nat),
        value * base ^ (v :: vs).length + Nat.ofDigits base (v :: vs).reverse =
          (value * base + v) * base ^ vs.length + Nat.ofDigits base vs.reverse := by
      intro v vs
      rw [List.reverse_cons, Nat.ofDigits_append, Nat.ofDigits_singleton, List.length_reverse,
        List.length_cons, pow_succ]
      ring
    constructor
    · rintro ⟨v, hv, hnext, h⟩
      obtain ⟨⟨vs, hvs, hn⟩, hlt⟩ := (ih hnext).mp h
      exact ⟨⟨v :: vs, .cons hv hvs, (horner v vs).trans hn⟩, hlt⟩
    · rintro ⟨⟨vs, hvs, hn⟩, hlt⟩
      obtain ⟨v, vs, hv, hrest, rfl⟩ := List.forall₂_cons_left_iff.mp hvs
      rw [horner] at hn
      have hpow : 1 ≤ base ^ vs.length := Nat.one_le_pow _ _ hbase.1
      have hle : value * base + v ≤ (value * base + v) * base ^ vs.length :=
        Nat.le_mul_of_pos_right _ hpow
      have hnext : value * base + v < bound := by omega
      exact ⟨v, hv, hnext, (ih hnext).mpr ⟨⟨vs, hrest, hn⟩, hlt⟩⟩

theorem plus_not_digit (hbase : base ≤ 16) : ¬ IsDigit base '+' v := by
  rw [← digit?_eq_some_iff hbase]
  intro h
  cases h

theorem read?_of_digits (hplus : ∀ rest, cs ≠ '+' :: rest) :
    read? base bound cs = if cs.isEmpty then none else accumulate base bound 0 cs := by
  unfold read?
  split
  · next rest => exact absurd rfl (hplus rest)
  · rfl

theorem read?_eq_some_iff (hbase : 0 < base ∧ base ≤ 16) (hbound : 0 < bound) :
    read? base bound cs = some n ↔ Writes base cs n ∧ n < bound := by
  have hdigits : ∀ ds, (if ds.isEmpty then none else accumulate base bound 0 ds) = some n ↔
      (ds ≠ [] ∧ Denotes base ds n) ∧ n < bound := by
    intro ds
    rw [Option.ite_none_left_eq_some, accumulate_eq_some_iff hbase hbound, List.isEmpty_iff,
      Denotes]
    simp only [zero_mul, zero_add, and_assoc, ne_eq]
  by_cases hplus : ∃ rest, cs = '+' :: rest
  · obtain ⟨rest, rfl⟩ := hplus
    have hread : read? base bound ('+' :: rest) =
        if rest.isEmpty then none else accumulate base bound 0 rest := rfl
    rw [hread, hdigits, Writes]
    refine and_congr_left fun _ => ?_
    constructor
    · intro h
      exact ⟨rest, .inr rfl, h⟩
    · rintro ⟨ds, hds, hne, hdenotes⟩
      rcases hds with rfl | hds
      · obtain ⟨vs, hvs, -⟩ := hdenotes
        obtain ⟨v, -, hv, -⟩ := List.forall₂_cons_left_iff.mp hvs
        exact absurd hv (plus_not_digit hbase.2)
      · rw [List.cons.injEq] at hds
        rw [hds.2]
        exact ⟨hne, hdenotes⟩
  · rw [not_exists] at hplus
    rw [read?_of_digits hplus, hdigits, Writes]
    refine and_congr_left fun _ => ?_
    constructor
    · intro h
      exact ⟨cs, .inl rfl, h⟩
    · rintro ⟨ds, rfl | rfl, h⟩
      · exact h
      · exact absurd rfl (hplus ds)

theorem isDigit_digitChar (hv : v < base) : IsDigit base (Nat.digitChar v) v := ⟨hv, .inl rfl⟩

theorem Denotes.concat (h : Denotes base ds n) (hv : IsDigit base c v) :
    Denotes base (ds ++ [c]) (n * base + v) := by
  obtain ⟨vs, hvs, rfl⟩ := h
  refine ⟨vs ++ [v], List.rel_append hvs (.cons hv .nil), ?_⟩
  rw [List.reverse_append, List.reverse_singleton, List.singleton_append, Nat.ofDigits_cons]
  ring

theorem denotes_toDigits (hbase : 1 < base) (n : Nat) :
    Denotes base (Nat.toDigits base n) n := by
  induction n using Nat.strongRecOn with
  | ind n ih =>
    by_cases hn : n < base
    · rw [Nat.toDigits_of_lt_base hn]
      exact ⟨[n], .cons (isDigit_digitChar hn) .nil, Nat.ofDigits_singleton⟩
    · have hle : base ≤ n := Nat.le_of_not_lt hn
      have hfront := ih (n / base) (Nat.div_lt_self (by omega) hbase)
      have hlast := isDigit_digitChar (Nat.mod_lt n (by omega : 0 < base))
      have hall := hfront.concat hlast
      rw [Nat.div_add_mod'] at hall
      rw [Nat.toDigits_of_base_le hbase hle]
      exact hall

theorem Denotes.padded (hbase : 0 < base) (h : Denotes base ds n) (zeros : Nat) :
    Denotes base (List.replicate zeros '0' ++ ds) n := by
  induction zeros with
  | zero => exact h
  | succ zeros ih =>
    obtain ⟨vs, hvs, rfl⟩ := ih
    refine ⟨0 :: vs, .cons (isDigit_digitChar hbase) hvs, ?_⟩
    rw [List.reverse_cons, Nat.ofDigits_append, Nat.ofDigits_singleton, Nat.mul_zero, Nat.add_zero]

end TemplateRouter.Text.Numeral
