import Mathlib.Tactic.Common
import Mathlib.Tactic.SplitIfs
import TemplateRouter.Text.Utf8
/-
The order of texts is the order of their bytes: of two characters the one with the greater code
point has the greater byte at the first place where their bytes differ.
-/
namespace TemplateRouter.Text.Utf8

theorem toList_eq_data (bytes : ByteArray) : bytes.toList = bytes.data.toList := by
  have hloop : ∀ n i acc, i + n = bytes.size →
      ByteArray.toList.loop bytes i acc = acc.reverse ++ bytes.data.toList.drop i := by
    intro n
    induction n with
    | zero =>
      intro i acc hi
      have hdrop : bytes.data.toList.drop i = [] :=
        List.drop_eq_nil_of_le (Nat.le_of_eq hi.symm)
      rw [ByteArray.toList.loop, if_neg (by omega), hdrop, List.append_nil]
    | succ n ih =>
      intro i acc hi
      have hlt : i < bytes.data.toList.length := by
        rw [Array.length_toList, ByteArray.size_data]
        omega
      have hget : bytes.get! i = bytes.data.toList[i] :=
        getElem!_pos bytes.data i hlt
      rw [ByteArray.toList.loop, if_pos (by omega), ih (i + 1) _ (by omega), hget,
        List.reverse_cons, List.append_assoc, List.drop_eq_getElem_cons hlt]
      rfl
  exact hloop bytes.size 0 [] (Nat.zero_add _)

theorem encode_eq (s : String) : encode s = s.toList.flatMap String.utf8EncodeChar := by
  rw [encode, toList_eq_data, String.toUTF8, ← String.utf8Encode_toList]
  exact List.toList_data_toByteArray

theorem byte_cons_lt_iff {m n : Nat} (hm : m < 256) (hn : n < 256) {x y : List UInt8} :
    UInt8.ofNat m :: x < UInt8.ofNat n :: y ↔ m < n ∨ m = n ∧ x < y := by
  rw [List.cons_lt_cons_iff, UInt8.ofNat_lt_iff_lt hm hn, ← UInt8.toNat_inj,
    UInt8.toNat_ofNat_of_lt' hm, UInt8.toNat_ofNat_of_lt' hn]

theorem lt_iff_last_digit {m n : Nat} :
    m < n ↔ m / 64 < n / 64 ∨ m / 64 = n / 64 ∧ m % 64 < n % 64 := by
  omega

/-- Of two code points the smaller one has the smaller digit to the base 64 at the first place where
they differ. -/
theorem digits_lt {m n : Nat} (h : m < n) (hn : n < 0x110000) :
    m / 262144 % 8 < n / 262144 % 8 ∨ m / 262144 % 8 = n / 262144 % 8 ∧
      (m / 4096 % 64 < n / 4096 % 64 ∨ m / 4096 % 64 = n / 4096 % 64 ∧
        (m / 64 % 64 < n / 64 % 64 ∨ m / 64 % 64 = n / 64 % 64 ∧ m % 64 < n % 64)) := by
  have hdiv (k : Nat) : k / 4096 = k / 64 / 64 ∧ k / 262144 = k / 64 / 64 / 64 := by omega
  rw [(hdiv m).1, (hdiv m).2, (hdiv n).1, (hdiv n).2, Nat.mod_eq_of_lt (by omega),
    Nat.mod_eq_of_lt (by omega)]
  rcases lt_iff_last_digit.mp h with hlt | ⟨heq, hlast⟩
  · rcases lt_iff_last_digit.mp hlt with hlt | ⟨heq, hlast⟩
    · rcases lt_iff_last_digit.mp hlt with hlt | ⟨heq, hlast⟩
      · exact .inl hlt
      · exact .inr ⟨heq, .inl hlast⟩
    · rw [heq]
      exact .inr ⟨rfl, .inr ⟨rfl, .inl hlast⟩⟩
  · rw [heq]
    exact .inr ⟨rfl, .inr ⟨rfl, .inr ⟨rfl, hlast⟩⟩⟩

/-- The bytes of a character come before those of a greater one, whatever follows them. -/
theorem encodeChar_append_lt {c d : Char} (h : c < d) (x y : List UInt8) :
    String.utf8EncodeChar c ++ x < String.utf8EncodeChar d ++ y := by
  have hlt : c.val.toNat < d.val.toNat := h
  have hd : d.val.toNat < 0x110000 := by
    rcases d.valid with hlow | ⟨-, hhigh⟩
    · exact Nat.lt_trans hlow (by decide)
    · exact hhigh
  unfold String.utf8EncodeChar
  generalize c.val.toNat = m at hlt
  generalize d.val.toNat = n at hlt hd
  have hdigits := digits_lt hlt hd
  dsimp only
  -- The number of bytes on both sides; the first byte tells one number from another.
  split_ifs <;>
    simp (disch := omega) only [List.cons_append, List.nil_append, byte_cons_lt_iff] <;> omega

theorem encodeChars_lt {s t : List Char} (h : s < t) :
    s.flatMap String.utf8EncodeChar < t.flatMap String.utf8EncodeChar := by
  induction h with
  | @nil d t =>
    rw [List.flatMap_nil, List.flatMap_cons]
    obtain ⟨b, bs, hb⟩ := List.exists_cons_of_ne_nil (String.utf8EncodeChar_ne_nil (c := d))
    rw [hb]
    exact List.nil_lt_cons _ _
  | @cons c s t _ ih =>
    rw [List.flatMap_cons, List.flatMap_cons]
    exact List.append_left_lt ih
  | @rel c s d t hcd => exact encodeChar_append_lt hcd _ _

/-- Texts are in the order of their bytes. -/
theorem encode_lt_encode_iff {s t : String} : encode s < encode t ↔ s < t := by
  rw [encode_eq, encode_eq]
  constructor
  · intro h
    by_contra hnot
    by_cases hrev : t < s
    · exact List.lt_asymm h (encodeChars_lt hrev)
    · have heq : s = t := String.le_antisymm (String.not_lt.mp hrev) (String.not_lt.mp hnot)
      rw [heq] at h
      exact List.lt_irrefl _ h
  · exact fun h => encodeChars_lt h

end TemplateRouter.Text.Utf8
