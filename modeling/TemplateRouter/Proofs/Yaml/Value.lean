import TemplateRouter.Proofs.Json.Value
import TemplateRouter.Proofs.Text.Numeral
import TemplateRouter.Yaml.Value
/-
What documents mean is bounded: whole numbers have 64 bits, objects are in order, and containers
lie inside one another no deeper than a reading may go.
-/
namespace TemplateRouter.Yaml

open Json (Bounded)

namespace Scalar

variable {s : List Char} {base bound n : Nat} {v : Json}

theorem digits?_lt (hbase : 0 < base ∧ base ≤ 16) (hbound : 0 < bound)
    (h : digits? base bound s = some n) : n < bound := by
  rw [digits?] at h
  split at h
  · cases h
  · exact ((Text.Numeral.read?_eq_some_iff hbase hbound).mp h).2

theorem based?_base {digits : List Char} (h : based? s = some (base, digits)) :
    0 < base ∧ base ≤ 16 := by
  unfold based? at h
  split at h
  all_goals cases h
  all_goals decide

theorem natural?_lt (hbound : 0 < bound) (h : natural? bound s = some n) : n < bound := by
  unfold natural? at h
  dsimp only at h
  split at h
  · next hbased => exact digits?_lt (based?_base hbased) hbound h
  · split at h
    · cases h
    · exact digits?_lt (by decide) hbound h

theorem negative?_le (h : negative? bound s = some n) : n ≤ bound := by
  unfold negative? at h
  split at h
  · split at h
    · next hbased => exact Nat.le_of_lt_succ (digits?_lt (based?_base hbased) (Nat.succ_pos _) h)
    · split at h
      · cases h
      · exact Nat.le_of_lt_succ (digits?_lt (by decide) (Nat.succ_pos _) h)
  · cases h

theorem bounded_int {n : Int} (h : -2 ^ 63 ≤ n ∧ n < 2 ^ 64) : Bounded 0 (.int n) :=
  ⟨h, Nat.le_refl 0⟩

theorem bounded_of_int? (h : int? s = some (some v)) : Bounded 0 v := by
  have h63 : Nat.pow 2 63 = 2 ^ 63 := rfl
  have h64 : Nat.pow 2 64 = 2 ^ 64 := rfl
  rw [int?, h63, h64] at h
  split at h
  · next hn =>
    cases h
    have hlt := natural?_lt (by decide) hn
    exact bounded_int (by omega)
  · next _ hn =>
    cases h
    have hle := negative?_le hn
    exact bounded_int (by omega)
  · split at h <;> cases h

theorem bounded_of_float? (h : float? s = some v) : Bounded 0 v := by
  rw [float?] at h
  split at h
  · cases h
    exact ⟨trivial, Nat.le_refl 0⟩
  · obtain ⟨x, -, rfl⟩ := Option.map_eq_some_iff.mp h
    exact ⟨trivial, Nat.le_refl 0⟩

theorem bounded_ofText (s : List Char) : Bounded 0 (ofText s) := ⟨trivial, Nat.le_refl 0⟩

theorem bounded_of_plain? (h : plain? s = some v) : Bounded 0 v := by
  rw [plain?] at h
  split at h
  · cases h
    exact ⟨trivial, Nat.le_refl 0⟩
  · split at h
    · cases h
      exact ⟨trivial, Nat.le_refl 0⟩
    · next hint =>
      rw [h] at hint
      exact bounded_of_int? hint
    · split at h
      · cases h
        exact bounded_ofText s
      · cases hfloat : float? s with
        | none =>
          rw [hfloat] at h
          cases h
          exact bounded_ofText s
        | some x =>
          rw [hfloat] at h
          cases h
          exact bounded_of_float? hfloat

theorem bounded_of_tagged? {tag : Bytes} (h : tagged? tag s = some v) : Bounded 0 v := by
  rw [tagged?] at h
  split at h
  · obtain ⟨b, -, rfl⟩ := Option.map_eq_some_iff.mp h
    exact ⟨trivial, Nat.le_refl 0⟩
  · split at h
    · exact bounded_of_int? (Option.join_eq_some_iff.mp h)
    · split at h
      · exact bounded_of_float? h
      · split at h
        · split at h
          · cases h
            exact ⟨trivial, Nat.le_refl 0⟩
          · cases h
        · cases h
          exact bounded_ofText s

end Scalar

theorem bounded_of_scalarValue? {tag : Option Bytes} {text : List Char} {plain : Bool} {v : Json}
    (h : scalarValue? tag text plain = some v) : Bounded 0 v := by
  have huntagged : ∀ {v}, (if plain then Scalar.plain? text else some (Scalar.ofText text)) =
      some v → Bounded 0 v := by
    intro v hv
    split at hv
    · exact Scalar.bounded_of_plain? hv
    · cases hv
      exact Scalar.bounded_ofText text
  unfold scalarValue? at h
  split at h
  · cases h
  · split at h
    · exact huntagged h
    · exact huntagged h
    · exact Scalar.bounded_of_tagged? h

namespace Document

/-- Whatever a reading gives has a property. -/
def Yields {α : Type} (x : Reading α) (P : α → Prop) : Prop :=
  ∀ left a left', x.run left = some (a, left') → P a

section Yields

variable {α β : Type} {P : β → Prop} {Q : α → Prop}

theorem yields_pure {b : β} (h : P b) : Yields (pure b) P := by
  intro left b' left' hrun
  obtain rfl : b = b' := congrArg Prod.fst (Option.some.inj hrun)
  exact h

theorem yields_failure : Yields (failure : Reading β) P := nofun

theorem yields_lift {o : Option β} (h : ∀ b, o = some b → P b) : Yields (liftM o) P := by
  intro left b left' hrun
  cases ho : o with
  | none =>
    rw [ho] at hrun
    cases hrun
  | some b' =>
    rw [ho] at hrun
    obtain rfl : b' = b := congrArg Prod.fst (Option.some.inj hrun)
    exact h b' ho

theorem yields_bind {x : Reading α} {f : α → Reading β} (hx : Yields x Q)
    (hf : ∀ a, Q a → Yields (f a) P) : Yields (x >>= f) P := by
  intro left b left' hrun
  obtain ⟨⟨a, left₁⟩, ha, hb⟩ := Option.bind_eq_some_iff.mp hrun
  exact hf a (hx left a left₁ ha) left₁ b left' hb

theorem yields_any (x : Reading α) : Yields x fun _ => True := fun _ _ _ _ => trivial

theorem yields_mapM {f : α → Reading β} (h : ∀ a, Yields (f a) P) (l : List α) :
    Yields (l.mapM f) fun bs => ∀ b ∈ bs, P b := by
  induction l with
  | nil => exact yields_pure nofun
  | cons a l ih =>
    rw [List.mapM_cons]
    refine yields_bind (h a) fun b hb => yields_bind ih fun bs hbs => yields_pure ?_
    exact List.forall_mem_cons.mpr ⟨hb, hbs⟩

end Yields

theorem yields_value (d : Document) (depth : Nat) (t : Tree) :
    Yields (d.value depth t) (Bounded depth) := by
  induction depth generalizing t with
  | zero =>
    rw [value]
    refine yields_bind (yields_any _) fun tree _ => ?_
    cases tree with
    | scalar tag text plain => exact yields_lift fun v hv => bounded_of_scalarValue? hv
    | reference number => exact yields_failure
    | sequence tag items => exact yields_failure
    | mapping tag entries => exact yields_failure
  | succ depth ih =>
    rw [value]
    refine yields_bind (yields_any _) fun tree _ => ?_
    cases tree with
    | scalar tag text plain =>
      exact yields_lift fun v hv => (bounded_of_scalarValue? hv).mono (Nat.zero_le _)
    | reference number => exact yields_failure
    | sequence tag items =>
      dsimp only
      split
      · exact yields_failure
      · refine yields_bind (yields_mapM ih items) fun vs hvs => yields_pure ?_
        exact Json.bounded_array hvs
    | mapping tag entries =>
      dsimp only
      split
      · exact yields_failure
      · have hentry : ∀ entry : Tree × Tree, Yields
            (do return (String.ofList (← d.scalarText entry.1), ← d.value depth entry.2))
            fun m : String × Json => Bounded depth m.2 := by
          intro entry
          refine yields_bind (yields_any _) fun key _ => yields_bind (ih entry.2) fun v hv => ?_
          exact yields_pure hv
        refine yields_bind (yields_mapM hentry entries) fun ms hms => yields_pure ?_
        exact Json.bounded_ofMembers hms

end Document

end TemplateRouter.Yaml
