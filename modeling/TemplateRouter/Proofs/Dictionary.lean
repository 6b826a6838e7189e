import Mathlib.Data.List.Induction
import Mathlib.Data.List.Perm.Basic
import Mathlib.Tactic.Common
import TemplateRouter.Dictionary
/-
What a dictionary of given pairs holds: its keys in ascending order, each of them once, and under
each the value that comes last among the pairs.
-/
namespace TemplateRouter.Dictionary

variable {α : Type} {d : Dictionary α}

/-- The keys are in ascending order. -/
def Sorted (d : Dictionary α) : Prop := d.Pairwise fun p q => p.1 < q.1

theorem mem_insert {key : String} {value : α} {p : String × α} (h : p ∈ insert key value d) :
    p = (key, value) ∨ p ∈ d := by
  induction d with
  | nil => exact .inl (List.mem_singleton.mp h)
  | cons q rest ih =>
    obtain ⟨k, v⟩ := q
    unfold insert at h
    split at h
    · rcases List.mem_cons.mp h with hp | hp
      · exact .inl hp
      · exact .inr (List.mem_cons_of_mem _ hp)
    · split at h
      · exact List.mem_cons.mp h
      · rcases List.mem_cons.mp h with hp | hp
        · exact .inr (hp ▸ List.mem_cons_self)
        · exact (ih hp).imp_right (List.mem_cons_of_mem _)

theorem Sorted.insert (h : Sorted d) (key : String) (value : α) :
    Sorted (insert key value d) := by
  induction d with
  | nil => exact List.pairwise_singleton _ _
  | cons q rest ih =>
    obtain ⟨k, v⟩ := q
    obtain ⟨hhead, hrest⟩ := List.pairwise_cons.mp h
    unfold Dictionary.insert
    split
    · next heq =>
      subst heq
      exact List.pairwise_cons.mpr ⟨hhead, hrest⟩
    · next hne =>
      split
      · next hlt =>
        refine List.pairwise_cons.mpr ⟨?_, h⟩
        intro p hp
        rcases List.mem_cons.mp hp with rfl | hp
        · exact hlt
        · exact String.lt_trans hlt (hhead p hp)
      · next hnlt =>
        have hlt : k < key := by
          rcases Std.lt_trichotomy k key with hlt | heq | hgt
          · exact hlt
          · exact absurd heq.symm hne
          · exact absurd hgt hnlt
        refine List.pairwise_cons.mpr ⟨?_, ih hrest⟩
        intro p hp
        rcases mem_insert hp with rfl | hp
        · exact hlt
        · exact hhead p hp

theorem sorted_ofPairs (pairs : List (String × α)) : Sorted (ofPairs pairs) := by
  induction pairs using List.reverseRecOn with
  | nil => exact List.Pairwise.nil
  | append_singleton pairs p ih =>
    rw [ofPairs, List.foldl_append]
    exact ih.insert p.1 p.2

theorem Sorted.mem_iff (h : Sorted d) {key : String} {value : α} :
    (key, value) ∈ d ↔ d.get? key = some value := by
  induction d with
  | nil => exact iff_of_false List.not_mem_nil nofun
  | cons q rest ih =>
    obtain ⟨k, v⟩ := q
    obtain ⟨hhead, hrest⟩ := List.pairwise_cons.mp h
    rw [get?, List.mem_cons, Prod.mk.injEq]
    split
    · next heq =>
      subst heq
      have hnot : (key, value) ∉ rest := fun hmem => String.lt_irrefl key (hhead _ hmem)
      simp [hnot, eq_comm]
    · next hne => rw [ih hrest, or_iff_right fun hand => hne hand.1]

theorem Sorted.nodup_keys (h : Sorted d) : (d.map Prod.fst).Nodup := by
  refine List.pairwise_map.mpr (h.imp ?_)
  intro p q hlt heq
  rw [heq] at hlt
  exact String.lt_irrefl _ hlt

/-- As many pairs as there are different keys. -/
theorem Sorted.length_eq (h : Sorted d) {keys : List String} (hnodup : keys.Nodup)
    (hkeys : ∀ key, key ∈ keys ↔ ∃ value, d.get? key = some value) : d.length = keys.length := by
  have hperm : (d.map Prod.fst).Perm keys := by
    refine (List.perm_ext_iff_of_nodup h.nodup_keys hnodup).mpr fun key => ?_
    rw [hkeys, List.mem_map]
    constructor
    · rintro ⟨⟨k, v⟩, hmem, rfl⟩
      exact ⟨v, h.mem_iff.mp hmem⟩
    · rintro ⟨v, hv⟩
      exact ⟨(key, v), h.mem_iff.mpr hv, rfl⟩
  rw [← hperm.length_eq, List.length_map]

def last? : List (String × α) → String → Option α
  | [], _ => none
  | (k, v) :: rest, key => (last? rest key).or (if key = k then some v else none)

theorem last?_append (ps qs : List (String × α)) (key : String) :
    last? (ps ++ qs) key = (last? qs key).or (last? ps key) := by
  induction ps with
  | nil => exact Option.or_none.symm
  | cons p ps ih => rw [List.cons_append, last?, last?, ih, Option.or_assoc]

theorem get?_ofPairs (pairs : List (String × α)) (key : String) :
    (ofPairs pairs).get? key = last? pairs key := by
  induction pairs using List.reverseRecOn with
  | nil => rfl
  | append_singleton pairs p ih =>
    obtain ⟨k, v⟩ := p
    rw [ofPairs] at ih
    rw [ofPairs, List.foldl_append, last?_append, ← ih]
    by_cases hkey : key = k <;> simp [get?_insert, last?, hkey]

theorem insert_of_forall_lt {key : String} (value : α) (h : ∀ p ∈ d, p.1 < key) :
    insert key value d = d ++ [(key, value)] := by
  induction d with
  | nil => rfl
  | cons q rest ih =>
    obtain ⟨k, v⟩ := q
    obtain ⟨hk, hrest⟩ := List.forall_mem_cons.mp h
    have hne : key ≠ k := by
      rintro rfl
      exact String.lt_irrefl key hk
    rw [insert, if_neg hne, if_neg (String.lt_asymm hk), ih hrest, List.cons_append]

theorem Sorted.ofPairs_eq (h : Sorted d) : ofPairs d = d := by
  induction d using List.reverseRecOn with
  | nil => rfl
  | append_singleton d p ih =>
    obtain ⟨hd, -, hlast⟩ := List.pairwise_append.mp h
    have hfront := ih hd
    rw [ofPairs] at hfront
    rw [ofPairs, List.foldl_append, hfront]
    exact insert_of_forall_lt p.2 fun q hq => hlast q hq p (List.mem_singleton_self p)

theorem mem_of_mem_ofPairs {pairs : List (String × α)} {p : String × α} (h : p ∈ ofPairs pairs) :
    p ∈ pairs := by
  induction pairs using List.reverseRecOn with
  | nil => exact h
  | append_singleton pairs q ih =>
    rw [ofPairs, List.foldl_append] at h
    rcases mem_insert h with rfl | h
    · exact List.mem_append_right _ (List.mem_singleton_self _)
    · exact List.mem_append_left _ (ih h)

end TemplateRouter.Dictionary
