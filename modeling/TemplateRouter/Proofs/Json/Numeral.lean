import Mathlib.Tactic.Common
import TemplateRouter.Json.Source
import TemplateRouter.Proofs.Text.Numeral
/-
Numerals as they are written: digits that are read back as the same digits, whatever follows.
-/
namespace TemplateRouter.Json

namespace Source

/-- What may follow a numeral: nothing that could go on with it. -/
def Ends (rest : List Char) : Prop :=
  ∀ c, rest.head? = some c → isDigit c = false ∧ c ≠ '.' ∧ c ≠ 'e' ∧ c ≠ 'E'

theorem ends_nil : Ends [] := nofun

theorem ends_cons {c : Char} {rest : List Char}
    (h : isDigit c = false ∧ c ≠ '.' ∧ c ≠ 'e' ∧ c ≠ 'E') : Ends (c :: rest) := by
  intro c' hc'
  obtain rfl : c = c' := Option.some.inj hc'
  exact h

end Source

namespace Numeral

open Source (isDigit)

/-- Digits, at least one. -/
structure Digits (ds : List Char) : Prop where
  ne_nil : ds ≠ []
  digits : ∀ c ∈ ds, isDigit c = true

/-- No digit is missing and no zero needless. -/
structure WellFormed (n : Numeral) : Prop where
  whole : Digits n.whole
  no_zero : n.whole.head? = some '0' → n.whole = ['0']
  fraction : ∀ c ∈ n.fraction, isDigit c = true
  exponent : ∀ negative ds, n.exponent = some (negative, ds) → Digits ds

def fractionText : List Char → List Char
  | [] => []
  | ds => '.' :: ds

def exponentText : Option (Bool × List Char) → List Char
  | none => []
  | some (negative, ds) => 'e' :: (if negative then '-' else '+') :: ds

def text (n : Numeral) : List Char :=
  (if n.negative then ['-'] else []) ++ n.whole ++ fractionText n.fraction ++
    exponentText n.exponent

end Numeral

namespace Source

open Numeral (Digits)

variable {ds rest : List Char}

theorem digits?_append (h : Digits ds) (hrest : ∀ c, rest.head? = some c → isDigit c = false) :
    digits? (ds ++ rest) = some (ds, rest) := by
  have htake : (ds ++ rest).takeWhile isDigit = ds := by
    rw [List.takeWhile_append_of_pos h.digits]
    cases rest with
    | nil => simp
    | cons c rest =>
      rw [List.takeWhile_cons_of_neg (by rw [hrest c rfl]; exact Bool.false_ne_true),
        List.append_nil]
  have hdrop : (ds ++ rest).dropWhile isDigit = rest := by
    have hall := List.takeWhile_append_dropWhile (p := isDigit) (l := ds ++ rest)
    rw [htake] at hall
    exact List.append_cancel_left hall
  have hne : ds.isEmpty = false := by simpa using h.ne_nil
  rw [digits?, htake, hdrop, hne]
  rfl

theorem whole?_append (h : Digits ds) (hzero : ds.head? = some '0' → ds = ['0'])
    (hrest : ∀ c, rest.head? = some c → isDigit c = false) :
    whole? (ds ++ rest) = some (ds, rest) := by
  rw [whole?, digits?_append h hrest]
  split
  · next heq =>
    rw [Option.some.injEq, Prod.mk.injEq] at heq
    obtain ⟨hds, -⟩ := heq
    rw [hds] at hzero
    exact absurd (hzero rfl) (by simp)
  · rfl

theorem exponentPart?_append {exponent : Option (Bool × List Char)}
    (h : ∀ negative ds, exponent = some (negative, ds) → Digits ds) (hrest : Ends rest) :
    exponentPart? (Numeral.exponentText exponent ++ rest) = some (exponent, rest) := by
  cases exponent with
  | none =>
    unfold exponentPart? Numeral.exponentText
    rw [List.nil_append]
    split
    · next rest' => exact absurd rfl (hrest 'e' rfl).2.2.1
    · next rest' => exact absurd rfl (hrest 'E' rfl).2.2.2
    · rfl
  | some e =>
    obtain ⟨negative, ds⟩ := e
    have hdigits := digits?_append (h negative ds rfl) fun c hc => (hrest c hc).1
    rw [Numeral.exponentText]
    cases negative <;> simp [exponentPart?, exponent?, hdigits]

theorem fractionPart?_append (h : ∀ c ∈ ds, isDigit c = true)
    (hrest : ∀ c, rest.head? = some c → isDigit c = false ∧ c ≠ '.') :
    fractionPart? (Numeral.fractionText ds ++ rest) = some (ds, rest) := by
  cases ds with
  | nil =>
    unfold fractionPart? Numeral.fractionText
    rw [List.nil_append]
    split
    · next rest' => exact absurd rfl (hrest '.' rfl).2
    · rfl
  | cons d ds =>
    exact digits?_append ⟨List.cons_ne_nil d ds, h⟩ fun c hc => (hrest c hc).1

theorem head_exponentText (exponent : Option (Bool × List Char)) (hrest : Ends rest) (c : Char)
    (hc : (Numeral.exponentText exponent ++ rest).head? = some c) :
    isDigit c = false ∧ c ≠ '.' := by
  cases exponent with
  | none => exact ⟨(hrest c hc).1, (hrest c hc).2.1⟩
  | some e =>
    obtain rfl : 'e' = c := Option.some.inj hc
    decide

theorem head_fractionText (fraction : List Char) (hrest : ∀ c, rest.head? = some c →
    isDigit c = false ∧ c ≠ '.') (c : Char)
    (hc : (Numeral.fractionText fraction ++ rest).head? = some c) : isDigit c = false := by
  cases fraction with
  | nil => exact (hrest c hc).1
  | cons d ds =>
    obtain rfl : '.' = c := Option.some.inj hc
    decide

/-- The rest of a numeral whose sign has been read. -/
def unsigned? (negative : Bool) (cs : List Char) : Option (Numeral × List Char) :=
  (whole? cs).bind fun (whole, cs) => (fractionPart? cs).bind fun (fraction, cs) =>
    (exponentPart? cs).map fun (exponent, cs) => (⟨negative, whole, fraction, exponent⟩, cs)

theorem numeral?_eq_unsigned? {cs : List Char} (h : cs.head? ≠ some '-') :
    numeral? cs = unsigned? false cs := by
  rw [numeral?]
  · rfl
  · rintro rest rfl
    exact h rfl

theorem unsigned?_append {n : Numeral} (h : n.WellFormed) (hrest : Ends rest) :
    unsigned? n.negative (n.whole ++ (Numeral.fractionText n.fraction ++
      (Numeral.exponentText n.exponent ++ rest))) = some (n, rest) := by
  have hexponent := exponentPart?_append h.exponent hrest
  have hfraction := fractionPart?_append h.fraction (head_exponentText n.exponent hrest)
  have hwhole := whole?_append h.whole h.no_zero
    (head_fractionText n.fraction (head_exponentText n.exponent hrest))
  simp only [unsigned?, hwhole, hfraction, hexponent, Option.bind_some, Option.map_some]

theorem numeral?_append {n : Numeral} (h : n.WellFormed) (hrest : Ends rest) :
    numeral? (n.text ++ rest) = some (n, rest) := by
  have hunsigned := unsigned?_append h hrest
  rw [Numeral.text, List.append_assoc, List.append_assoc, List.append_assoc]
  cases hnegative : n.negative with
  | true =>
    rw [hnegative] at hunsigned
    exact hunsigned
  | false =>
    rw [hnegative] at hunsigned
    rw [if_neg Bool.false_ne_true, List.nil_append, numeral?_eq_unsigned? ?_, hunsigned]
    obtain ⟨c, cs, hwhole⟩ := List.exists_cons_of_ne_nil h.whole.ne_nil
    have hc := h.whole.digits c (by simp [hwhole])
    rw [hwhole, List.cons_append, List.head?_cons]
    intro heq
    rw [Option.some.inj heq] at hc
    cases hc

end Source

namespace Numeral

open Source (isDigit)

theorem digits_decimalDigits (n : Nat) : Digits (decimalDigits n) := by
  refine ⟨Nat.toDigits_ne_nil, fun c hc => ?_⟩
  have hdigit := Nat.isDigit_of_mem_toDigits (by decide) (by decide) hc
  rw [Char.isDigit, Bool.and_eq_true, decide_eq_true_eq, decide_eq_true_eq] at hdigit
  rw [isDigit, Bool.and_eq_true, decide_eq_true_eq, decide_eq_true_eq]
  exact hdigit

/-- Only the digits of zero begin with one. -/
theorem eq_zero_of_head {n : Nat} (h : (decimalDigits n).head? = some '0') : n = 0 := by
  induction n using Nat.strongRecOn with
  | ind n ih =>
    by_cases hn : n < 10
    · have hzero : ∀ n < 10, (decimalDigits n).head? = some '0' → n = 0 := by decide
      exact hzero n hn h
    · have hfront : (decimalDigits (n / 10)).head? = some '0' := by
        rw [decimalDigits, Nat.toDigits_of_base_le (by decide) (Nat.le_of_not_lt hn),
          List.head?_append_of_ne_nil _ Nat.toDigits_ne_nil] at h
        exact h
      have hdiv := ih (n / 10) (by omega) hfront
      omega

theorem fractionText_of_ne_nil {ds : List Char} (h : ds ≠ []) : fractionText ds = '.' :: ds := by
  cases ds with
  | nil => exact absurd rfl h
  | cons d ds => rfl

def ofInt (n : Int) : Numeral := ⟨decide (n < 0), decimalDigits n.natAbs, [], none⟩

theorem text_ofInt (n : Int) : (ofInt n).text = renderInt n := by
  rw [renderInt, text, ofInt, fractionText, exponentText]
  by_cases hn : n < 0 <;> simp [hn]

theorem wellFormed_ofInt (n : Int) : (ofInt n).WellFormed where
  whole := digits_decimalDigits _
  no_zero h := by
    rw [ofInt] at h ⊢
    rw [eq_zero_of_head h]
    rfl
  fraction := nofun
  exponent := nofun

/-- A decimal as it is laid out: with a point, or with one digit before it and an exponent. -/
def ofDecimal (d : Decimal) : Numeral :=
  let digits := decimalDigits d.digits
  let leading : Int := d.exponent + digits.length - 1
  if -5 ≤ leading && leading < 16 then
    if d.exponent ≥ 0 then ⟨false, digits ++ List.replicate d.exponent.toNat '0', ['0'], none⟩
    else if leading < 0 then
      ⟨false, ['0'], List.replicate (-leading - 1).toNat '0' ++ digits, none⟩
    else ⟨false, digits.take (leading.toNat + 1), digits.drop (leading.toNat + 1), none⟩
  else
    ⟨false, digits.take 1, digits.drop 1,
      some (decide (leading < 0), decimalDigits leading.natAbs)⟩

/-- Behind the digits before its point a decimal has more. -/
theorem drop_ne_nil {d : Decimal} (h : ¬ d.exponent ≥ 0)
    (hleading : ¬ d.exponent + (decimalDigits d.digits).length - 1 < 0) :
    (decimalDigits d.digits).drop
      ((d.exponent + (decimalDigits d.digits).length - 1).toNat + 1) ≠ [] := by
  rw [Ne, List.drop_eq_nil_iff]
  omega

theorem text_ofDecimal (d : Decimal) : (ofDecimal d).text = layout d := by
  have hdigits := (digits_decimalDigits d.digits).ne_nil
  rw [ofDecimal, layout]
  dsimp only
  split
  · split
    · simp [text, fractionText, exponentText]
    · next hexponent =>
      split
      · rw [text, fractionText_of_ne_nil (List.append_ne_nil_of_right_ne_nil _ hdigits)]
        simp [exponentText]
      · next hleading =>
        rw [text, fractionText_of_ne_nil (drop_ne_nil hexponent hleading)]
        simp [exponentText]
  · cases hdrop : (decimalDigits d.digits).drop 1 with
    | nil => simp [text, fractionText, exponentText]
    | cons c cs => simp [text, fractionText, exponentText]

theorem negative_ofDecimal (d : Decimal) : (ofDecimal d).negative = false := by
  rw [ofDecimal]
  split
  · split
    · rfl
    · split <;> rfl
  · rfl

def negate (n : Numeral) : Numeral := { n with negative := true }

theorem text_negate {n : Numeral} (h : n.negative = false) : n.negate.text = '-' :: n.text := by
  rw [text, text, h, negate]
  rfl

theorem WellFormed.negate {n : Numeral} (h : n.WellFormed) : n.negate.WellFormed :=
  ⟨h.whole, h.no_zero, h.fraction, h.exponent⟩

theorem Digits.take {ds : List Char} (h : Digits ds) (n : Nat) : Digits (ds.take (n + 1)) := by
  refine ⟨?_, fun c hc => h.digits c (List.mem_of_mem_take hc)⟩
  rw [Ne, List.take_eq_nil_iff]
  exact fun hnil => hnil.elim (Nat.succ_ne_zero n) h.ne_nil

theorem wellFormed_ofDecimal {d : Decimal} (h : d.digits = 0 → d.exponent = 0) :
    (ofDecimal d).WellFormed := by
  have hdigits := digits_decimalDigits d.digits
  have hzeros : ∀ n, ∀ c ∈ List.replicate n '0', isDigit c = true := by
    intro n c hc
    rw [List.eq_of_mem_replicate hc]
    rfl
  have hzero : Digits ['0'] := ⟨List.cons_ne_nil _ _, hzeros 1⟩
  have hdrop : ∀ n, ∀ c ∈ (decimalDigits d.digits).drop n, isDigit c = true :=
    fun n c hc => hdigits.digits c (List.mem_of_mem_drop hc)
  rw [ofDecimal]
  split
  · split
    · refine ⟨⟨?_, List.forall_mem_append.mpr ⟨hdigits.digits, hzeros _⟩⟩, ?_, hzeros 1, nofun⟩
      · exact List.append_ne_nil_of_left_ne_nil hdigits.ne_nil _
      · intro hhead
        rw [List.head?_append_of_ne_nil _ hdigits.ne_nil] at hhead
        have hd := eq_zero_of_head hhead
        rw [hd, h hd]
        rfl
    · next hexponent =>
      split
      · exact ⟨hzero, fun _ => rfl, List.forall_mem_append.mpr ⟨hzeros _, hdigits.digits⟩,
          nofun⟩
      · refine ⟨hdigits.take _, ?_, hdrop _, nofun⟩
        intro hhead
        rw [List.head?_take, if_neg (Nat.succ_ne_zero _)] at hhead
        rw [h (eq_zero_of_head hhead)] at hexponent
        exact absurd (Int.le_refl 0) hexponent
  · refine ⟨hdigits.take 0, ?_, hdrop 1, ?_⟩
    · intro hhead
      obtain ⟨c, cs, hcons⟩ := List.exists_cons_of_ne_nil hdigits.ne_nil
      rw [hcons] at hhead ⊢
      rw [List.take_succ_cons, List.take_zero] at hhead ⊢
      rw [Option.some.inj hhead]
    · intro negative ds heq
      rw [Option.some.injEq, Prod.mk.injEq] at heq
      rw [← heq.2]
      exact digits_decimalDigits _

end Numeral

end TemplateRouter.Json

namespace TemplateRouter.Decimal

namespace Interval

theorem pos_of_holds {i : Interval} {num den : Nat} (hlow : 0 < i.low) (hden : 0 < den)
    (h : i.holds num den) : 0 < num := by
  have hpos : 0 < i.low * den := Nat.mul_pos hlow hden
  have hle : i.low * den ≤ num * i.den := by
    rw [holds] at h
    split at h
    · exact of_decide_eq_true (Bool.and_eq_true_iff.mp h).1
    · exact Nat.le_of_lt (of_decide_eq_true (Bool.and_eq_true_iff.mp h).1)
  exact Nat.pos_of_mul_pos_right (Nat.lt_of_lt_of_le hpos hle)

theorem low_pos {b : Binary} (h : b.significand ≠ 0) : 0 < (ofBinary b).low := by
  rw [ofBinary]
  apply Nat.mul_pos
  · split <;> omega
  · split
    · exact Nat.one_pos
    · exact Nat.pow_pos (by decide)

theorem digits_of_onGrid? {i : Interval} {exponent : Int} {d : Decimal} (hlow : 0 < i.low)
    (h : i.onGrid? exponent = some d) : d.digits ≠ 0 := by
  obtain ⟨n, hfind, rfl⟩ := Option.map_eq_some_iff.mp h
  have hup : 0 < if exponent < 0 then Nat.pow 10 (-exponent).toNat else 1 := by
    split
    · exact Nat.pow_pos (by decide)
    · exact Nat.one_pos
  have hholds := List.find?_some hfind
  exact (Nat.pos_of_mul_pos_right (pos_of_holds hlow hup hholds)).ne'

theorem exponent_shortest {i : Interval} (hlow : 0 < i.low) (h : i.shortest.digits = 0) :
    i.shortest.exponent = 0 := by
  rw [shortest] at h ⊢
  split at h
  · next d hd =>
    obtain ⟨n, -, hgrid⟩ := List.exists_of_findSome?_eq_some hd
    have hne := digits_of_onGrid? hlow hgrid
    split at h
    · cases h
    · exact absurd h hne
  · rfl

end Interval

theorem exponent_ofBits {bits : Nat} (h : (ofBits bits).digits = 0) :
    (ofBits bits).exponent = 0 := by
  rw [ofBits] at h ⊢
  split at h
  · next hsignificand =>
    rw [if_pos hsignificand]
  · next hsignificand =>
    rw [if_neg hsignificand]
    exact Interval.exponent_shortest (Interval.low_pos hsignificand) h

end TemplateRouter.Decimal
