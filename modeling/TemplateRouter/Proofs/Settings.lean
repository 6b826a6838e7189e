import TemplateRouter.Proofs.Text.Decoding
import TemplateRouter.Proofs.Text.Lines
import TemplateRouter.Proofs.Text.Numeral
import TemplateRouter.Settings
/-
The size limit that the environment gives: exactly the number written there if it has 64 bits, and
the default if there is no such number.
-/
namespace TemplateRouter.Settings

open Text (Trims isBlank)
open Text.Numeral

/-- A number in one of the two notations, without anything around it. -/
inductive Spells : List Char → Nat → Prop
  | decimal {cs : List Char} {n : Nat} : Writes 10 cs n → Spells cs n
  | hexadecimal {cs : List Char} {n : Nat} : Writes 16 cs n → Spells ('0' :: 'x' :: cs) n

/-- A text that gives a size: white space apart, the notation of a number of 64 bits. -/
def GivesSize (text : List Char) (n : Nat) : Prop :=
  ∃ cs, Trims text cs ∧ Spells cs n ∧ n < 2 ^ 64

variable {base n : Nat} {text cs ds : List Char}

theorem forall_of_denotes {p : Char → Prop} (hp : ∀ c v, IsDigit base c v → p c)
    (h : Denotes base ds n) : ∀ c ∈ ds, p c := by
  obtain ⟨vs, hvs, -⟩ := h
  intro c hc
  induction hvs with
  | nil => cases hc
  | @cons d v ds vs hd _ ih =>
    rcases List.mem_cons.mp hc with rfl | hc
    · exact hp c v hd
    · exact ih hc

theorem digit_not_blank : ∀ v < 16, isBlank (Nat.digitChar v) = false ∧
    isBlank (Nat.digitChar v).toUpper = false := by
  decide

theorem not_blank_of_isDigit {c : Char} {v : Nat} (hbase : base ≤ 16) (h : IsDigit base c v) :
    isBlank c = false := by
  have hdigit := digit_not_blank v (Nat.lt_of_lt_of_le h.lt hbase)
  rcases h.eq_or with rfl | rfl
  · exact hdigit.1
  · exact hdigit.2

theorem x_not_digit {v : Nat} : ¬ IsDigit 10 'x' v := by
  rw [← digit?_eq_some_iff (by decide)]
  intro h
  cases h

/-- A mark of the other base is no decimal digit. -/
theorem not_writes_marked : ¬ Writes 10 ('0' :: 'x' :: cs) n := by
  rintro ⟨ds, rfl | h, -, hdenotes⟩
  · exact forall_of_denotes (p := (· ≠ 'x')) (fun c v hc hx => x_not_digit (hx ▸ hc)) hdenotes 'x'
      (by simp) rfl
  · cases h

theorem spells_marked_iff : Spells ('0' :: 'x' :: cs) n ↔ Writes 16 cs n := by
  constructor
  · intro h
    cases h with
    | decimal h => exact absurd h not_writes_marked
    | hexadecimal h => exact h
  · exact .hexadecimal

theorem spells_unmarked_iff (hmark : ∀ rest, cs ≠ '0' :: 'x' :: rest) :
    Spells cs n ↔ Writes 10 cs n := by
  constructor
  · intro h
    cases h with
    | decimal h => exact h
    | hexadecimal h => exact absurd rfl (hmark _)
  · exact .decimal

theorem readSize?_eq_some_iff : readSize? text = some n ↔ GivesSize text n := by
  have hgives : GivesSize text n ↔ Spells (Text.trim text) n ∧ n < 2 ^ 64 := by
    constructor
    · rintro ⟨cs, htrims, h⟩
      rw [Text.trims_iff.mp htrims]
      exact h
    · intro h
      exact ⟨_, Text.trims_trim text, h⟩
  rw [hgives, readSize?]
  split
  · next digits heq =>
    rw [heq, spells_marked_iff]
    exact read?_eq_some_iff (by decide) (by decide)
  · next hmark =>
    rw [spells_unmarked_iff hmark]
    exact read?_eq_some_iff (by decide) (by decide)

theorem readSize?_eq_none_iff :
    readSize? text = none ↔ ∀ cs n, Trims text cs → Spells cs n → 2 ^ 64 ≤ n := by
  simp only [Option.eq_none_iff_forall_ne_some, ne_eq, readSize?_eq_some_iff]
  constructor
  · intro h cs n htrims hspells
    exact Nat.le_of_not_lt fun hlt => h n ⟨cs, htrims, hspells, hlt⟩
  · rintro h n ⟨cs, htrims, hspells, hlt⟩
    exact absurd hlt (Nat.not_lt.mpr (h cs n htrims hspells))

theorem trims_padded {before after : List Char} (hbefore : ∀ c ∈ before, isBlank c)
    (hafter : ∀ c ∈ after, isBlank c) (hcs : ∀ c ∈ cs, isBlank c = false) :
    Trims (before ++ cs ++ after) cs where
  cut := ⟨before, after, rfl, hbefore, hafter⟩
  front c hc := hcs c (List.mem_of_head? hc)
  back c hc := hcs c (List.mem_of_getLast? hc)

/-- The digits of a number behind needless zeros. -/
def rendering (base zeros n : Nat) : List Char :=
  List.replicate zeros '0' ++ Nat.toDigits base n

theorem writes_rendering (hbase : 1 < base) (zeros n : Nat) :
    Writes base (rendering base zeros n) n := by
  refine ⟨_, .inl rfl, ?_, (denotes_toDigits hbase n).padded (by omega) zeros⟩
  exact List.append_ne_nil_of_right_ne_nil _ Nat.toDigits_ne_nil

theorem rendering_not_blank (hbase : 1 < base ∧ base ≤ 16) (zeros n : Nat) :
    ∀ c ∈ rendering base zeros n, isBlank c = false :=
  forall_of_denotes (fun _ _ => not_blank_of_isDigit hbase.2)
    ((denotes_toDigits hbase.1 n).padded (by omega) zeros)

/-- However a number of 64 bits is padded, either notation of it is read back. -/
structure ReadsBack (n : Nat) (before after : List Char) (zeros : Nat) : Prop where
  decimal : readSize? (before ++ rendering 10 zeros n ++ after) = some n
  hexadecimal : readSize? (before ++ '0' :: 'x' :: rendering 16 zeros n ++ after) = some n

theorem readsBack {before after : List Char} (hn : n < 2 ^ 64) (hbefore : ∀ c ∈ before, isBlank c)
    (hafter : ∀ c ∈ after, isBlank c) (zeros : Nat) : ReadsBack n before after zeros := by
  constructor
  · have hblank : ∀ c ∈ rendering 10 zeros n, isBlank c = false :=
      rendering_not_blank (by decide) zeros n
    exact readSize?_eq_some_iff.mpr ⟨_, trims_padded hbefore hafter hblank,
      .decimal (writes_rendering (by decide) zeros n), hn⟩
  · have hblank : ∀ c ∈ '0' :: 'x' :: rendering 16 zeros n, isBlank c = false := by
      rw [List.forall_mem_cons, List.forall_mem_cons]
      exact ⟨by decide, by decide, rendering_not_blank (by decide) zeros n⟩
    exact readSize?_eq_some_iff.mpr ⟨_, trims_padded hbefore hafter hblank,
      .hexadecimal (writes_rendering (by decide) zeros n), hn⟩

/-- The size that an environment gives, if any: its variable is text and gives it. -/
def GivenSize (env : Environment) (n : Nat) : Prop :=
  ∃ text, env.lookup "ROUTESWITCH_REGEX_SIZE_LIMIT" = some (Text.Utf8.encode text) ∧
    GivesSize text.toList n

theorem givenSize_iff {env : Environment} :
    GivenSize env n ↔
      ((env.text? "ROUTESWITCH_REGEX_SIZE_LIMIT").bind fun s => readSize? s.toList) = some n := by
  simp only [GivenSize, Environment.text?, Option.bind_eq_some_iff, readSize?_eq_some_iff,
    Text.Utf8.decode?_eq_some_iff]
  constructor
  · rintro ⟨text, hlookup, hgives⟩
    exact ⟨text, ⟨_, hlookup, rfl⟩, hgives⟩
  · rintro ⟨text, ⟨_, hlookup, rfl⟩, hgives⟩
    exact ⟨text, hlookup, hgives⟩

theorem sizeLimit_of_given {env : Environment} (h : GivenSize env n) :
    (ofEnvironment env).sizeLimit = n := by
  rw [ofEnvironment, givenSize_iff.mp h]
  rfl

theorem sizeLimit_of_not_given {env : Environment} (h : ∀ n, ¬ GivenSize env n) :
    (ofEnvironment env).sizeLimit = 0xa00000 := by
  simp only [givenSize_iff, ← ne_eq, ← Option.eq_none_iff_forall_ne_some] at h
  rw [ofEnvironment, h]
  rfl

/-- A size is read exactly as it is written, or it is not read: an environment gives the number in
it or leaves the default, and every number of 64 bits can be given in both notations. -/
theorem size_exact_or_default :
    (∀ text n, readSize? text = some n ↔ GivesSize text n) ∧
    (∀ text, readSize? text = none ↔ ∀ cs n, Trims text cs → Spells cs n → 2 ^ 64 ≤ n) ∧
    (∀ env n, GivenSize env n → (ofEnvironment env).sizeLimit = n) ∧
    (∀ env, (∀ n, ¬ GivenSize env n) → (ofEnvironment env).sizeLimit = 0xa00000) ∧
    ∀ n < 2 ^ 64, ∀ before after, (∀ c ∈ before, isBlank c) → (∀ c ∈ after, isBlank c) →
      ∀ zeros, ReadsBack n before after zeros := by
  refine ⟨fun _ _ => readSize?_eq_some_iff, fun _ => readSize?_eq_none_iff,
    fun _ _ => sizeLimit_of_given, fun _ => sizeLimit_of_not_given, ?_⟩
  intro n hn before after hbefore hafter zeros
  exact readsBack hn hbefore hafter zeros

/-- With the largest number behind needless zeros, and with the next one. -/
theorem size_exact_or_default_largest :
    2 ^ 64 - 1 < 2 ^ 64 ∧ (∀ c ∈ [' ', '\t'], isBlank c) ∧ (∀ c ∈ ['\n'], isBlank c) ∧
      ReadsBack (2 ^ 64 - 1) [' ', '\t'] ['\n'] 2 ∧
      readSize? " \t0x00ffffffffffffffff\n".toList = some (2 ^ 64 - 1) ∧
      GivesSize "+0018446744073709551615".toList (2 ^ 64 - 1) ∧
      (ofEnvironment [("ROUTESWITCH_REGEX_SIZE_LIMIT",
        Text.Utf8.encode "+0018446744073709551615")]).sizeLimit = 2 ^ 64 - 1 ∧
      (∀ n, ¬ GivenSize [("ROUTESWITCH_REGEX_SIZE_LIMIT",
        Text.Utf8.encode "18446744073709551616")] n) ∧
      (ofEnvironment [("ROUTESWITCH_REGEX_SIZE_LIMIT",
        Text.Utf8.encode "18446744073709551616")]).sizeLimit = 0xa00000 := by
  obtain ⟨hsome, -, hgiven, hdefault, hback⟩ := size_exact_or_default
  have hbefore : ∀ c ∈ [' ', '\t'], isBlank c := List.all_eq_true.mp (by decide)
  have hafter : ∀ c ∈ ['\n'], isBlank c := List.all_eq_true.mp (by decide)
  have hreads := hback (2 ^ 64 - 1) (by decide) _ _ hbefore hafter 2
  have hgives : GivesSize "+0018446744073709551615".toList (2 ^ 64 - 1) :=
    (hsome _ _).mp (by decide +kernel)
  have hnone : ∀ n, ¬ GivenSize [("ROUTESWITCH_REGEX_SIZE_LIMIT",
      Text.Utf8.encode "18446744073709551616")] n := by
    intro n hn
    have hread := givenSize_iff.mp hn
    have hunread : ((Environment.text? [("ROUTESWITCH_REGEX_SIZE_LIMIT",
        Text.Utf8.encode "18446744073709551616")] "ROUTESWITCH_REGEX_SIZE_LIMIT").bind
          fun s => readSize? s.toList) = none := by
      decide +kernel
    rw [hunread] at hread
    cases hread
  exact ⟨by decide, hbefore, hafter, hreads, by decide +kernel, hgives,
    hgiven _ _ ⟨_, rfl, hgives⟩, hnone, hdefault _ hnone⟩

end TemplateRouter.Settings
