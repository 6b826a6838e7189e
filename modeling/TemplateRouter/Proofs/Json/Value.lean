import TemplateRouter.Proofs.Dictionary
import TemplateRouter.Proofs.Json.Reading
/-
Values that have been read are those that can be written and read again: their whole numbers have
64 bits and their objects are in order. Without floats each is the value of its own text.
-/
namespace TemplateRouter.Json

mutual

/-- How many containers stand inside one another, the outermost included. -/
def nesting : Json → Nat
  | array items => nestingOfItems items + 1
  | object members => nestingOfMembers members + 1
  | _ => 0

def nestingOfItems : List Json → Nat
  | [] => 0
  | v :: rest => max (nesting v) (nestingOfItems rest)

def nestingOfMembers : List (String × Json) → Nat
  | [] => 0
  | (_, v) :: rest => max (nesting v) (nestingOfMembers rest)

end

mutual

/-- Whether there is no float in a value. -/
def isFloatless : Json → Bool
  | float _ => false
  | array items => areFloatless items
  | object members => membersFloatless members
  | _ => true

def areFloatless : List Json → Bool
  | [] => true
  | v :: rest => isFloatless v && areFloatless rest

def membersFloatless : List (String × Json) → Bool
  | [] => true
  | (_, v) :: rest => isFloatless v && membersFloatless rest

end

mutual

/-- Whole numbers have 64 bits, with a sign or without, and keys are in ascending order. -/
def Proper : Json → Prop
  | int n => -2 ^ 63 ≤ n ∧ n < 2 ^ 64
  | array items => ProperItems items
  | object members => Dictionary.Sorted members ∧ ProperMembers members
  | _ => True

def ProperItems : List Json → Prop
  | [] => True
  | v :: rest => Proper v ∧ ProperItems rest

def ProperMembers : List (String × Json) → Prop
  | [] => True
  | (_, v) :: rest => Proper v ∧ ProperMembers rest

end

theorem properItems_iff {items : List Json} : ProperItems items ↔ ∀ v ∈ items, Proper v := by
  induction items with
  | nil => simp [ProperItems]
  | cons v rest ih => rw [ProperItems, ih, List.forall_mem_cons]

theorem properMembers_iff {members : List (String × Json)} :
    ProperMembers members ↔ ∀ m ∈ members, Proper m.2 := by
  induction members with
  | nil => simp [ProperMembers]
  | cons m rest ih => rw [ProperMembers, ih, List.forall_mem_cons]

theorem nestingOfItems_le_iff {items : List Json} {n : Nat} :
    nestingOfItems items ≤ n ↔ ∀ v ∈ items, v.nesting ≤ n := by
  induction items with
  | nil => simp [nestingOfItems]
  | cons v rest ih => rw [nestingOfItems, Nat.max_le, ih, List.forall_mem_cons]

theorem nestingOfMembers_le_iff {members : List (String × Json)} {n : Nat} :
    nestingOfMembers members ≤ n ↔ ∀ m ∈ members, m.2.nesting ≤ n := by
  induction members with
  | nil => simp [nestingOfMembers]
  | cons m rest ih => rw [nestingOfMembers, Nat.max_le, ih, List.forall_mem_cons]

theorem membersFloatless_iff {members : List (String × Json)} :
    membersFloatless members ↔ ∀ m ∈ members, m.2.isFloatless := by
  induction members with
  | nil => simp [membersFloatless]
  | cons m rest ih => rw [membersFloatless, Bool.and_eq_true, ih, List.forall_mem_cons]

theorem proper_ofMembers {members : List (String × Json)} (h : ProperMembers members) :
    (ofMembers members).Proper := by
  rw [properMembers_iff] at h
  refine ⟨Dictionary.sorted_ofPairs members, properMembers_iff.mpr fun m hm => ?_⟩
  exact h m (Dictionary.mem_of_mem_ofPairs hm)

theorem nesting_ofMembers_le {members : List (String × Json)} {n : Nat}
    (h : nestingOfMembers members ≤ n) : (ofMembers members).nesting ≤ n + 1 := by
  rw [nestingOfMembers_le_iff] at h
  refine Nat.succ_le_succ (nestingOfMembers_le_iff.mpr fun m hm => ?_)
  exact h m (Dictionary.mem_of_mem_ofPairs hm)

/-- A value that is proper and has at most so many containers inside one another. -/
structure Bounded (depth : Nat) (v : Json) : Prop where
  proper : v.Proper
  nesting_le : v.nesting ≤ depth

theorem Bounded.mono {depth depth' : Nat} {v : Json} (h : v.Bounded depth) (hle : depth ≤ depth') :
    v.Bounded depth' := ⟨h.proper, Nat.le_trans h.nesting_le hle⟩

theorem bounded_array {depth : Nat} {items : List Json} (h : ∀ v ∈ items, v.Bounded depth) :
    (array items).Bounded (depth + 1) where
  proper := properItems_iff.mpr fun v hv => (h v hv).proper
  nesting_le := Nat.succ_le_succ (nestingOfItems_le_iff.mpr fun v hv => (h v hv).nesting_le)

theorem bounded_ofMembers {depth : Nat} {members : List (String × Json)}
    (h : ∀ m ∈ members, m.2.Bounded depth) : (ofMembers members).Bounded (depth + 1) where
  proper := proper_ofMembers (properMembers_iff.mpr fun m hm => (h m hm).proper)
  nesting_le := nesting_ofMembers_le (nestingOfMembers_le_iff.mpr fun m hm => (h m hm).nesting_le)

namespace Numeral

theorem take_append {n k : Nat} {ds : List Char} (h : take n ds = (k, [])) (cs : List Char) :
    take n (ds ++ cs) = take k cs := by
  induction ds generalizing n with
  | nil =>
    rw [take, Prod.mk.injEq] at h
    rw [List.nil_append, h.1]
  | cons d ds ih =>
    rw [take] at h
    rw [List.cons_append, take]
    split at h
    · next hle =>
      rw [if_pos hle]
      exact ih h
    · simp at h

theorem toNat_digitChar : ∀ v < 10, (Nat.digitChar v).toNat - 48 = v := by decide

/-- The digits of a word are all taken. -/
theorem take_decimalDigits {n : Nat} (h : n ≤ maxWord) : take 0 (decimalDigits n) = (n, []) := by
  induction n using Nat.strongRecOn with
  | ind n ih =>
    by_cases hn : n < 10
    · rw [decimalDigits, Nat.toDigits_of_lt_base hn, take, toNat_digitChar n hn]
      simp [take, h]
    · have hle : 10 ≤ n := Nat.le_of_not_lt hn
      have hfront := ih (n / 10) (by omega) (by omega)
      have hlast := toNat_digitChar (n % 10) (Nat.mod_lt n (by decide))
      have hvalue : n / 10 * 10 + n % 10 = n := Nat.div_add_mod' n 10
      rw [decimalDigits] at hfront
      rw [decimalDigits, Nat.toDigits_of_base_le (by decide) hle, take_append hfront, take, hlast,
        hvalue]
      simp [take, h]

theorem value_ofInt {n : Int} (h : -2 ^ 63 ≤ n ∧ n < 2 ^ 64) : (ofInt n).value = some (.int n) := by
  have hword : n.natAbs ≤ maxWord := by
    rw [maxWord]
    simp only [Nat.pow_eq]
    omega
  have hpow : Nat.pow 2 63 = 2 ^ 63 := rfl
  have hcond : (!decide (n < 0) || decide (0 < n.natAbs) && decide (n.natAbs ≤ 2 ^ 63)) = true := by
    simp only [Bool.or_eq_true, Bool.not_eq_true', decide_eq_false_iff_not, Bool.and_eq_true,
      decide_eq_true_eq]
    omega
  have hsigned : (if decide (n < 0) = true then -(n.natAbs : Int) else n.natAbs) = n := by
    simp only [decide_eq_true_eq]
    split <;> omega
  rw [value, ofInt]
  simp only [take_decimalDigits hword, List.isEmpty_nil, Option.isNone_none, Bool.true_and, hpow,
    hcond, if_true, hsigned]

theorem take_le {n : Nat} {ds : List Char} (h : n ≤ maxWord) : (take n ds).1 ≤ maxWord := by
  induction ds generalizing n with
  | nil => exact h
  | cons d ds ih =>
    rw [take]
    split
    · next hle => exact ih hle
    · exact h

theorem bounded_of_value {n : Numeral} {v : Json} (h : n.value = some v) : v.Bounded 0 := by
  have hmax : maxWord < 2 ^ 64 := by decide
  have hpow : Nat.pow 2 63 = 2 ^ 63 := rfl
  have hword : (take 0 n.whole).1 ≤ maxWord := take_le (Nat.zero_le maxWord)
  unfold value at h
  split at h
  next whole dropped htake =>
  rw [htake] at hword
  split at h
  · next hcond =>
    rw [Option.some.injEq] at h
    rw [← h]
    refine ⟨?_, Nat.le_refl 0⟩
    simp only [Bool.and_eq_true, Bool.or_eq_true, Bool.not_eq_true', decide_eq_true_eq,
      hpow] at hcond
    rw [Proper]
    split
    · next hnegative =>
      have hrange := hcond.2.resolve_left (by rw [hnegative]; exact Bool.noConfusion)
      omega
    · omega
  · obtain ⟨x, -, rfl⟩ := Option.map_eq_some_iff.mp h
    exact ⟨trivial, Nat.le_refl 0⟩

end Numeral

theorem text?_char (c : Char) (rest : List StringPiece) :
    Source.text? (piece c :: rest) = (Source.text? rest).map (c :: ·) := by
  rw [piece]
  split
  · next hc =>
    rw [Source.text?.eq_def]
    dsimp only
    rw [if_neg (by omega), if_neg (by omega), Char.ofNat_toNat]
  · rw [Source.text?]

theorem text?_pieces (s : String) : Source.text? (pieces s) = some s.toList := by
  rw [pieces]
  induction s.toList with
  | nil => rfl
  | cons c cs ih =>
    rw [List.map_cons, text?_char, ih]
    rfl

mutual

/-- Without floats a value is that of its text, read with as many containers as it has. -/
theorem value_source : (v : Json) → ∀ {depth : Nat}, v.Proper → v.isFloatless → v.nesting ≤ depth →
    v.source.value depth = some v
  | null, _, _, _, _ => by rw [source, Source.value]
  | bool b, _, _, _, _ => by rw [source, Source.value]
  | int n, _, hproper, _, _ => by
    rw [source, Source.value]
    exact Numeral.value_ofInt hproper
  | string s, _, _, _, _ => by
    rw [source, Source.value, text?_pieces, Option.map_some, String.ofList_toList]
  | array items, 0, _, _, hdepth => absurd hdepth (Nat.not_succ_le_zero _)
  | array items, depth + 1, hproper, hfloat, hdepth => by
    have hitems := values_sources items hproper hfloat (Nat.le_of_succ_le_succ hdepth)
    rw [source, Source.value, hitems]
    rfl
  | object members, 0, _, _, hdepth => absurd hdepth (Nat.not_succ_le_zero _)
  | object members, depth + 1, hproper, hfloat, hdepth => by
    have hmembers := memberValues_memberSources members hproper.2 hfloat
      (Nat.le_of_succ_le_succ hdepth)
    rw [source, Source.value, hmembers, Option.map_some, ofMembers, hproper.1.ofPairs_eq]

theorem values_sources : (items : List Json) → ∀ {depth : Nat}, ProperItems items →
    areFloatless items → nestingOfItems items ≤ depth →
    Source.values depth (sources items) = some items
  | [], _, _, _, _ => by rw [sources, Source.values]
  | v :: rest, depth, hproper, hfloat, hdepth => by
    obtain ⟨hfloatv, hfloatrest⟩ := Bool.and_eq_true_iff.mp hfloat
    obtain ⟨hdepthv, hdepthrest⟩ := Nat.max_le.mp hdepth
    rw [sources, Source.values, value_source v hproper.1 hfloatv hdepthv, Option.bind_some,
      values_sources rest hproper.2 hfloatrest hdepthrest]
    rfl

theorem memberValues_memberSources : (members : List (String × Json)) → ∀ {depth : Nat},
    ProperMembers members → membersFloatless members → nestingOfMembers members ≤ depth →
    Source.memberValues depth (memberSources members) = some members
  | [], _, _, _, _ => by rw [memberSources, Source.memberValues]
  | (k, v) :: rest, depth, hproper, hfloat, hdepth => by
    obtain ⟨hfloatv, hfloatrest⟩ := Bool.and_eq_true_iff.mp hfloat
    obtain ⟨hdepthv, hdepthrest⟩ := Nat.max_le.mp hdepth
    rw [memberSources, Source.memberValues, text?_pieces, Option.bind_some,
      value_source v hproper.1 hfloatv hdepthv, Option.bind_some,
      memberValues_memberSources rest hproper.2 hfloatrest hdepthrest, String.ofList_toList]
    rfl

end

mutual

/-- A value that has been read is proper, and no deeper than it may be. -/
theorem bounded_of_value : (s : Source) → ∀ {depth : Nat} {v : Json}, s.value depth = some v →
    v.Bounded depth
  | .null, _, _, h => by
    rw [Source.value, Option.some.injEq] at h
    rw [← h]
    exact ⟨trivial, Nat.zero_le _⟩
  | .bool b, _, _, h => by
    rw [Source.value, Option.some.injEq] at h
    rw [← h]
    exact ⟨trivial, Nat.zero_le _⟩
  | .number n, _, _, h => by
    rw [Source.value] at h
    exact (Numeral.bounded_of_value h).mono (Nat.zero_le _)
  | .string ps, _, _, h => by
    rw [Source.value] at h
    obtain ⟨s, -, rfl⟩ := Option.map_eq_some_iff.mp h
    exact ⟨trivial, Nat.zero_le _⟩
  | .array items, 0, _, h => by simp [Source.value] at h
  | .array items, depth + 1, _, h => by
    rw [Source.value] at h
    obtain ⟨vs, hvs, rfl⟩ := Option.map_eq_some_iff.mp h
    exact bounded_array (bounded_of_values items hvs)
  | .object members, 0, _, h => by simp [Source.value] at h
  | .object members, depth + 1, _, h => by
    rw [Source.value] at h
    obtain ⟨ms, hms, rfl⟩ := Option.map_eq_some_iff.mp h
    exact bounded_ofMembers (bounded_of_memberValues members hms)

theorem bounded_of_values : (items : List Source) → ∀ {depth : Nat} {vs : List Json},
    Source.values depth items = some vs → ∀ v ∈ vs, v.Bounded depth
  | [], _, _, h => by
    rw [Source.values, Option.some.injEq] at h
    rw [← h]
    exact List.forall_mem_nil _
  | s :: rest, _, _, h => by
    rw [Source.values] at h
    obtain ⟨v, hv, hrest⟩ := Option.bind_eq_some_iff.mp h
    obtain ⟨vs, hvs, rfl⟩ := Option.map_eq_some_iff.mp hrest
    exact List.forall_mem_cons.mpr ⟨bounded_of_value s hv, bounded_of_values rest hvs⟩

theorem bounded_of_memberValues : (members : List (List StringPiece × Source)) →
    ∀ {depth : Nat} {ms : List (String × Json)}, Source.memberValues depth members = some ms →
    ∀ m ∈ ms, m.2.Bounded depth
  | [], _, _, h => by
    rw [Source.memberValues, Option.some.injEq] at h
    rw [← h]
    exact List.forall_mem_nil _
  | (k, s) :: rest, _, _, h => by
    rw [Source.memberValues] at h
    obtain ⟨key, -, hvalue⟩ := Option.bind_eq_some_iff.mp h
    obtain ⟨v, hv, hrest⟩ := Option.bind_eq_some_iff.mp hvalue
    obtain ⟨ms, hms, rfl⟩ := Option.map_eq_some_iff.mp hrest
    exact List.forall_mem_cons.mpr ⟨bounded_of_value s hv, bounded_of_memberValues rest hms⟩

end

/-- The text of an object without floats is read as its members, by ascending key. -/
theorem parse?_object {members : List (String × Json)} (hproper : ProperMembers members)
    (hfloat : membersFloatless members) (hdepth : nestingOfMembers members < Source.maxDepth) :
    parse? (object members).text.toList = some (.ofMembers members) := by
  have hmembers := memberValues_memberSources members hproper hfloat (Nat.le_of_lt_succ hdepth)
  rw [parse?, text, String.toList_ofList, parse?_render, Option.bind_some, source]
  change (Source.memberValues 126 (memberSources members)).map ofMembers = _
  rw [hmembers]
  rfl

end TemplateRouter.Json
