import Mathlib.Data.List.Nodup
import TemplateRouter.Proofs.Loading.Listing
/-
Which files of a directory are loaded, and in which order. The order of a listing does not matter,
and files that are left out leave the others in their order.
-/
namespace TemplateRouter

section Sorting

variable {β : Type}

theorem append_eq_append_of_forall {q : β → Bool} {l₁ l₂ m₁ m₂ : List β}
    (h : l₁ ++ l₂ = m₁ ++ m₂) (hl₁ : ∀ b ∈ l₁, q b) (hl₂ : ∀ b ∈ l₂, ¬ q b) (hm₁ : ∀ b ∈ m₁, q b)
    (hm₂ : ∀ b ∈ m₂, ¬ q b) : l₁ = m₁ ∧ l₂ = m₂ := by
  have hfilter := congrArg (List.filter q) h
  rw [List.filter_append, List.filter_append, List.filter_eq_self.mpr hl₁,
    List.filter_eq_self.mpr hm₁, List.filter_eq_nil_iff.mpr hl₂, List.filter_eq_nil_iff.mpr hm₂,
    List.append_nil, List.append_nil] at hfilter
  subst hfilter
  exact ⟨rfl, List.append_cancel_left h⟩

section Stability

variable {le : β → β → Bool} (htrans : ∀ a b c, le a b → le b c → le a c)
  (htotal : ∀ a b, le a b || le b a)

include htrans htotal

/-- One more element in front is sorted in before the first that it may precede. -/
theorem exists_mergeSort_cons (a : β) (l : List β) :
    ∃ l₁ l₂, (a :: l).mergeSort le = l₁ ++ a :: l₂ ∧ l.mergeSort le = l₁ ++ l₂ ∧
      (∀ b ∈ l₁, !le a b) ∧ ∀ b ∈ l₂, ¬ (!le a b) = true := by
  obtain ⟨l₁, l₂, hcons, hl, hbefore⟩ := List.mergeSort_cons htrans htotal a l
  have hsorted := List.pairwise_mergeSort htrans htotal (a :: l)
  rw [hcons, List.pairwise_append, List.pairwise_cons] at hsorted
  obtain ⟨-, ⟨hafter, -⟩, -⟩ := hsorted
  refine ⟨l₁, l₂, hcons, hl, hbefore, ?_⟩
  intro b hb
  simp [hafter b hb]

/-- The sort is stable, so elements can be left out before it or after it. -/
theorem filter_mergeSort (p : β → Bool) (l : List β) :
    (l.mergeSort le).filter p = (l.filter p).mergeSort le := by
  induction l with
  | nil => simp
  | cons a l ih =>
    obtain ⟨l₁, l₂, hcons, hl, hbefore, hafter⟩ := exists_mergeSort_cons htrans htotal a l
    rw [hl, List.filter_append] at ih
    rw [hcons, List.filter_append]
    cases hp : p a with
    | false =>
      have hp' : ¬ p a = true := by simp [hp]
      rw [List.filter_cons_of_neg hp', List.filter_cons_of_neg hp', ih]
    | true =>
      obtain ⟨m₁, m₂, hcons', hm, hbefore', hafter'⟩ :=
        exists_mergeSort_cons htrans htotal a (l.filter p)
      rw [hm] at ih
      -- Both are cut at the same place, so `a` stands between the same elements.
      obtain ⟨h₁, h₂⟩ := append_eq_append_of_forall ih
        (fun b hb => hbefore b (List.mem_filter.mp hb).1)
        (fun b hb => hafter b (List.mem_filter.mp hb).1) hbefore' hafter'
      rw [List.filter_cons_of_pos hp, List.filter_cons_of_pos hp, hcons', h₁, h₂]

end Stability

theorem flatMap_filter_of_nil {γ : Type} {f : β → List γ} {p : β → Bool} {l : List β}
    (h : ∀ b ∈ l, p b = false → f b = []) : (l.filter p).flatMap f = l.flatMap f := by
  induction l with
  | nil => rfl
  | cons b l ih =>
    rw [List.forall_mem_cons] at h
    rw [List.flatMap_cons, ← ih h.2]
    cases hb : p b with
    | true => rw [List.filter_cons_of_pos hb, List.flatMap_cons]
    | false => rw [List.filter_cons_of_neg (by simp [hb]), h.1 hb, List.nil_append]

end Sorting

namespace Directory

/-- Leaving files out of a directory leaves them out of its manifests, and nothing else changes. -/
theorem manifests_filter (p : FileName × Item → Bool) (d : Directory) :
    manifests (d.filter p) = d.manifests.filter p := by
  rw [manifests, manifests, filter_mergeSort byName_trans byName_total, List.filter_comm]

/-- A directory that is listed by name needs no sorting. -/
theorem manifests_of_listed {d : Directory} (h : d.Pairwise fun a b => a.1 ≤ b.1) :
    d.manifests = d.filter isManifest := by
  apply List.mergeSort_of_pairwise
  exact (h.sublist List.filter_sublist).imp fun hle => decide_eq_true hle

theorem declared_of_listed {d : Directory} (h : d.Pairwise fun a b => a.1 ≤ b.1) :
    d.declared = (d.filter isManifest).flatMap declaredIn := by
  rw [declared, manifests_of_listed h]

variable {d listed : Directory}

/-- Where names are distinct, the manifests do not depend on the order of the listing. -/
theorem manifests_of_perm (hnames : (d.map Prod.fst).Nodup) (h : listed.Perm d) :
    listed.manifests = d.manifests := by
  have hperm : listed.manifests.Perm d.manifests :=
    listed.manifests_perm.trans ((h.filter isManifest).trans d.manifests_perm.symm)
  refine hperm.eq_of_pairwise ?_ listed.manifests_sorted d.manifests_sorted
  intro a b ha hb hab hba
  have hmem : ∀ c ∈ d.manifests, c ∈ d :=
    fun c hc => (List.mem_filter.mp (d.manifests_perm.mem_iff.mp hc)).1
  -- Two files of one name stand in the directory only if they are the same file.
  exact List.inj_on_of_nodup_map hnames (hmem a (hperm.mem_iff.mp ha)) (hmem b hb)
    (List.le_antisymm hab hba)

theorem manifests_ascending (hnames : (d.map Prod.fst).Nodup) :
    d.manifests.Pairwise fun a b => a.1 < b.1 := by
  have hdistinct : (d.manifests.map Prod.fst).Nodup := by
    rw [(d.manifests_perm.map Prod.fst).nodup_iff]
    exact hnames.sublist (List.filter_sublist.map _)
  rw [List.Nodup, List.pairwise_map] at hdistinct
  refine (d.manifests_sorted.and hdistinct).imp ?_
  rintro a b ⟨hle, hne⟩
  exact (List.le_iff_lt_or_eq.mp hle).resolve_right hne

/-- A manifest that does not load. -/
def isBroken (dir : Bytes) (file : FileName × Item) : Bool :=
  isManifest file && !(Handler.load dir file.1 (some file.2)).isOk

def withoutBroken (dir : Bytes) (d : Directory) : Directory :=
  d.filter fun file => !isBroken dir file

theorem declaredIn_of_isBroken {dir : Bytes} {file : FileName × Item}
    (h : isBroken dir file = true) : declaredIn file = [] := by
  rw [isBroken, Bool.and_eq_true] at h
  rw [declaredIn_eq dir]
  cases hload : Handler.load dir file.1 (some file.2) with
  | error e => rfl
  | ok handler => simp [hload, Except.isOk, Except.toBool] at h

theorem routes_withoutBroken (dir : Bytes) (d : Directory) :
    (d.withoutBroken dir).routes dir = d.routes dir := by
  have hnil : ∀ file ∈ d.manifests, (!isBroken dir file) = false → declaredIn file = [] := by
    intro file _ hbroken
    rw [Bool.not_eq_false'] at hbroken
    exact declaredIn_of_isBroken hbroken
  rw [routes_eq, routes_eq, declared, declared, withoutBroken, manifests_filter,
    flatMap_filter_of_nil hnil]

end Directory

end TemplateRouter
