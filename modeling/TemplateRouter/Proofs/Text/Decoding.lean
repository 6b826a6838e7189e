import Mathlib.Tactic.Common
import Mathlib.Tactic.SplitIfs
import TemplateRouter.Proofs.Text.Order
/-
Decoding undoes encoding: bytes have a text exactly if they are the bytes of that text.
-/
namespace TemplateRouter.Text.Utf8

section Bytewise

variable {a b c d : UInt8}

theorem isContinuation_iff : isContinuation b ↔ 128 ≤ b.toNat ∧ b.toNat ≤ 191 := by
  rw [isContinuation, Bool.and_eq_true, decide_eq_true_eq, decide_eq_true_eq,
    UInt8.le_iff_toNat_le, UInt8.le_iff_toNat_le]
  rfl

theorem isSecondOfThree_iff :
    isSecondOfThree a b ↔ (128 ≤ b.toNat ∧ b.toNat ≤ 191) ∧
      (a.toNat = 224 → 160 ≤ b.toNat) ∧ (a.toNat = 237 → b.toNat ≤ 159) := by
  simp only [isSecondOfThree, ← UInt8.toNat_inj]
  split_ifs <;>
    simp only [isContinuation, Bool.and_eq_true, decide_eq_true_eq, UInt8.le_iff_toNat_le,
      UInt8.reduceToNat] at * <;> omega

theorem isSecondOfFour_iff :
    isSecondOfFour a b ↔ (128 ≤ b.toNat ∧ b.toNat ≤ 191) ∧
      (a.toNat = 240 → 144 ≤ b.toNat) ∧ (a.toNat = 244 → b.toNat ≤ 143) := by
  simp only [isSecondOfFour, ← UInt8.toNat_inj]
  split_ifs <;>
    simp only [isContinuation, Bool.and_eq_true, decide_eq_true_eq, UInt8.le_iff_toNat_le,
      UInt8.reduceToNat] at * <;> omega

theorem toNat_byte {n : Nat} (h : n < 256) : (UInt8.ofNat n).toNat = n :=
  UInt8.toNat_ofNat_of_lt' h

theorem byte_eq_iff {n : Nat} (h : n < 256) : UInt8.ofNat n = b ↔ n = b.toNat := by
  rw [← UInt8.toNat_inj, toNat_byte h]

theorem val_ofNat {n : Nat} (h : n.isValidChar) : (Char.ofNat n).val.toNat = n := by
  rw [Char.ofNat, dif_pos h]
  rfl

theorem encodeChar_one (ha : a.toNat < 128) : String.utf8EncodeChar (Char.ofNat a.toNat) = [a] := by
  have hvalid : a.toNat.isValidChar := .inl (by omega)
  rw [String.utf8EncodeChar, val_ofNat hvalid, if_pos (by omega), UInt8.ofNat_toNat]

theorem encodeChar_two (ha : 194 ≤ a.toNat ∧ a.toNat ≤ 223) (hb : isContinuation b) :
    String.utf8EncodeChar (compose (a.toNat % 32) [b]) = [a, b] := by
  rw [isContinuation_iff] at hb
  have hvalid : (a.toNat % 32 * 64 + b.toNat % 64).isValidChar := .inl (by omega)
  rw [String.utf8EncodeChar, compose, List.foldl_cons, List.foldl_nil, val_ofNat hvalid,
    if_neg (by omega), if_pos (by omega)]
  simp (disch := omega) only [List.cons.injEq, byte_eq_iff, and_true]
  omega

theorem encodeChar_three (ha : 224 ≤ a.toNat ∧ a.toNat ≤ 239) (hb : isSecondOfThree a b)
    (hc : isContinuation c) :
    String.utf8EncodeChar (compose (a.toNat % 16) [b, c]) = [a, b, c] := by
  rw [isSecondOfThree_iff] at hb
  rw [isContinuation_iff] at hc
  have hvalid : ((a.toNat % 16 * 64 + b.toNat % 64) * 64 + c.toNat % 64).isValidChar := by
    unfold Nat.isValidChar
    omega
  rw [String.utf8EncodeChar, compose, List.foldl_cons, List.foldl_cons, List.foldl_nil,
    val_ofNat hvalid, if_neg (by omega), if_neg (by omega), if_pos (by omega)]
  simp (disch := omega) only [List.cons.injEq, byte_eq_iff, and_true]
  omega

theorem encodeChar_four (ha : 240 ≤ a.toNat ∧ a.toNat ≤ 244) (hb : isSecondOfFour a b)
    (hc : isContinuation c) (hd : isContinuation d) :
    String.utf8EncodeChar (compose (a.toNat % 8) [b, c, d]) = [a, b, c, d] := by
  rw [isSecondOfFour_iff] at hb
  rw [isContinuation_iff] at hc hd
  have hvalid : (((a.toNat % 8 * 64 + b.toNat % 64) * 64 + c.toNat % 64) * 64 +
      d.toNat % 64).isValidChar := by
    unfold Nat.isValidChar
    omega
  rw [String.utf8EncodeChar, compose, List.foldl_cons, List.foldl_cons, List.foldl_cons,
    List.foldl_nil, val_ofNat hvalid, if_neg (by omega), if_neg (by omega), if_neg (by omega)]
  simp (disch := omega) only [List.cons.injEq, byte_eq_iff, and_true]
  omega

end Bytewise

/-- The bytes that are read as one character, by the first of them. -/
inductive Encodes : Bytes → Char → Prop
  | one {a : UInt8} : a.toNat < 128 → Encodes [a] (Char.ofNat a.toNat)
  | two {a b : UInt8} : 194 ≤ a.toNat ∧ a.toNat ≤ 223 → isContinuation b →
      Encodes [a, b] (compose (a.toNat % 32) [b])
  | three {a b c : UInt8} : 224 ≤ a.toNat ∧ a.toNat ≤ 239 → isSecondOfThree a b →
      isContinuation c → Encodes [a, b, c] (compose (a.toNat % 16) [b, c])
  | four {a b c d : UInt8} : 240 ≤ a.toNat ∧ a.toNat ≤ 244 → isSecondOfFour a b →
      isContinuation c → isContinuation d →
      Encodes [a, b, c, d] (compose (a.toNat % 8) [b, c, d])

variable {bytes : Bytes} {x y : Char}

theorem Encodes.encodeChar_eq (h : Encodes bytes x) : String.utf8EncodeChar x = bytes := by
  cases h with
  | one ha => exact encodeChar_one ha
  | two ha hb => exact encodeChar_two ha hb
  | three ha hb hc => exact encodeChar_three ha hb hc
  | four ha hb hc hd => exact encodeChar_four ha hb hc hd

theorem encodeChar_inj (h : String.utf8EncodeChar x = String.utf8EncodeChar y) : x = y := by
  have hlt : ∀ {x y : Char}, x < y → String.utf8EncodeChar x ≠ String.utf8EncodeChar y := by
    intro x y hxy heq
    have hless := encodeChar_append_lt hxy [] []
    rw [heq] at hless
    exact List.lt_irrefl _ hless
  apply Char.le_antisymm
  · exact Char.not_lt.mp fun hyx => hlt hyx h.symm
  · exact Char.not_lt.mp fun hxy => hlt hxy h

theorem exists_encodes (x : Char) : ∃ y, Encodes (String.utf8EncodeChar x) y := by
  have hvalid : x.val.toNat < 0xd800 ∨ 0xdfff < x.val.toNat ∧ x.val.toNat < 0x110000 := x.valid
  unfold String.utf8EncodeChar
  generalize x.val.toNat = n at hvalid
  dsimp only
  split_ifs
  · refine ⟨_, .one ?_⟩
    rw [toNat_byte (by omega)]
    omega
  · refine ⟨_, .two ?_ ?_⟩ <;>
      simp (disch := omega) only [isContinuation_iff, toNat_byte] <;> omega
  · refine ⟨_, .three ?_ ?_ ?_⟩ <;>
      simp (disch := omega) only [isContinuation_iff, isSecondOfThree_iff, toNat_byte] <;> omega
  · refine ⟨_, .four ?_ ?_ ?_ ?_⟩ <;>
      simp (disch := omega) only [isContinuation_iff, isSecondOfFour_iff, toNat_byte] <;> omega

theorem encodes_encodeChar (x : Char) : Encodes (String.utf8EncodeChar x) x := by
  obtain ⟨y, hy⟩ := exists_encodes x
  have heq : y = x := encodeChar_inj hy.encodeChar_eq
  rw [heq] at hy
  exact hy

theorem Encodes.pieces_append (h : Encodes bytes x) (rest : Bytes) :
    pieces (bytes ++ rest) = some x :: pieces rest := by
  rw [pieces.eq_def]
  cases h with
  | one ha =>
    simp only [List.cons_append, List.nil_append, UInt8.lt_iff_toNat_lt, UInt8.reduceToNat,
      if_pos ha]
  | two ha hb =>
    simp only [List.cons_append, List.nil_append, UInt8.lt_iff_toNat_lt, UInt8.le_iff_toNat_le,
      UInt8.reduceToNat, Bool.and_eq_true, decide_eq_true_eq, if_pos ha, if_pos hb]
    rw [if_neg (by omega)]
  | three ha hb hc =>
    simp only [List.cons_append, List.nil_append, UInt8.lt_iff_toNat_lt, UInt8.le_iff_toNat_le,
      UInt8.reduceToNat, Bool.and_eq_true, decide_eq_true_eq, if_pos ha, if_pos hb, if_pos hc]
    rw [if_neg (by omega), if_neg (by omega)]
  | four ha hb hc hd =>
    simp only [List.cons_append, List.nil_append, UInt8.lt_iff_toNat_lt, UInt8.le_iff_toNat_le,
      UInt8.reduceToNat, Bool.and_eq_true, decide_eq_true_eq, if_pos ha, if_pos hb, if_pos hc,
      if_pos hd]
    rw [if_neg (by omega), if_neg (by omega), if_neg (by omega)]

theorem pieces_eq_nil_iff : pieces bytes = [] ↔ bytes = [] := by
  fun_cases pieces bytes <;> simp_all

theorem encodes_of_pieces {ps : List (Option Char)} (h : pieces bytes = some x :: ps) :
    ∃ front rest, bytes = front ++ rest ∧ Encodes front x ∧ pieces rest = ps := by
  rw [pieces.eq_def] at h
  simp only [UInt8.lt_iff_toNat_lt, UInt8.le_iff_toNat_le, UInt8.reduceToNat, Bool.and_eq_true,
    decide_eq_true_eq] at h
  split at h
  · cases h
  · -- By the length that the first byte calls for; what is cut short is no character.
    split_ifs at h with hone htwo hthree hfour
    · cases h
      exact ⟨_, _, rfl, .one hone, rfl⟩
    · split at h
      · split_ifs at h with hb <;> cases h
        exact ⟨_, _, rfl, .two htwo hb, rfl⟩
      · cases h
    · split at h
      · split_ifs at h with hb hc <;> cases h
        exact ⟨_, _, rfl, .three hthree hb hc, rfl⟩
      · split_ifs at h <;> cases h
      · cases h
    · split at h
      · split_ifs at h with hb hc hd <;> cases h
        exact ⟨_, _, rfl, .four hfour hb hc hd, rfl⟩
      · split_ifs at h <;> cases h
      · split_ifs at h <;> cases h
      · cases h
    · cases h

theorem pieces_eq_map_iff {cs : List Char} :
    pieces bytes = cs.map some ↔ cs.flatMap String.utf8EncodeChar = bytes := by
  induction cs generalizing bytes with
  | nil => rw [List.map_nil, List.flatMap_nil, pieces_eq_nil_iff, eq_comm]
  | cons c cs ih =>
    rw [List.map_cons, List.flatMap_cons]
    constructor
    · intro h
      obtain ⟨front, rest, rfl, hfront, hrest⟩ := encodes_of_pieces h
      rw [hfront.encodeChar_eq, ih.mp hrest]
    · rintro rfl
      rw [(encodes_encodeChar c).pieces_append, ih.mpr rfl]

theorem filterMap_id_eq_iff {ps : List (Option Char)} {cs : List Char} :
    ps.all Option.isSome ∧ ps.filterMap id = cs ↔ ps = cs.map some := by
  induction ps generalizing cs with
  | nil => cases cs <;> simp
  | cons p ps ih =>
    cases p with
    | none => cases cs <;> simp
    | some c =>
      cases cs with
      | nil => simp
      | cons c' cs =>
        simp only [List.all_cons, Option.isSome_some, Bool.true_and, List.filterMap_cons, id_eq,
          List.cons.injEq, List.map_cons, Option.some.injEq, ← ih]
        exact and_left_comm

/-- Bytes have a text exactly if they are the bytes of that text. -/
theorem decode?_eq_some_iff {s : String} : decode? bytes = some s ↔ encode s = bytes := by
  rw [encode_eq, ← pieces_eq_map_iff, ← filterMap_id_eq_iff, decode?]
  constructor
  · intro h
    split_ifs at h with hall
    rw [Option.some.injEq] at h
    exact ⟨hall, by rw [← h, String.toList_ofList]⟩
  · rintro ⟨hall, htext⟩
    rw [if_pos hall, htext, String.ofList_toList]

theorem decode?_eq_none_iff : decode? bytes = none ↔ ∀ s, encode s ≠ bytes := by
  rw [Option.eq_none_iff_forall_ne_some]
  exact forall_congr' fun s => not_congr decode?_eq_some_iff

theorem decode?_encode (s : String) : decode? (encode s) = some s := decode?_eq_some_iff.mpr rfl

/-- A text whose bytes start with one below 128 starts with the character of that byte. -/
theorem exists_toList_of_encode {s : String} {a : UInt8} {rest : Bytes} (h : encode s = a :: rest)
    (ha : a.toNat < 128) : ∃ cs, s.toList = Char.ofNat a.toNat :: cs := by
  have hread := decode?_eq_some_iff.mpr h
  have hpieces : pieces (a :: rest) = some (Char.ofNat a.toNat) :: pieces rest :=
    (Encodes.one ha).pieces_append rest
  rw [decode?] at hread
  split_ifs at hread
  rw [hpieces, List.filterMap_cons_some (f := id) rfl, Option.some.injEq] at hread
  rw [← hread, String.toList_ofList]
  exact ⟨_, rfl⟩

end TemplateRouter.Text.Utf8
