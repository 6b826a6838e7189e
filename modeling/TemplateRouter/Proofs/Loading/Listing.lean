import Mathlib.Tactic.Common
import Mathlib.Data.List.Basic
import TemplateRouter.Proofs.Loading.File
import TemplateRouter.Proofs.Table.State
/-
What a directory declares: by file name, then in the order of each manifest. A table that is loaded
holds exactly these declarations as routes, in this order.
-/
namespace TemplateRouter

def Handler.served (h : Handler) : List Served :=
  h.manifest.map fun d => { d with handler := h.name }

def Served.route (s : Served) : Route Served := ⟨.template s.path, s⟩

namespace Directory

/-- What a file declares: what its text is read as in the format that its name promises, under the
stem of the name. A file without a text or with another one declares nothing. -/
def declaredIn (file : FileName × Item) : List Served :=
  match file.1.format?, Item.read (some file.2) with
  | some format, .ok text =>
    ((Manifest.parse? format text.toList).getD []).map fun d => { d with handler := file.1.stem }
  | _, _ => []

/-- The declarations of a directory. Its manifests stand in the byte order of their names, and the
declarations of each in the order it has them. -/
structure Declares (d : Directory) (declared : List Served) : Prop where
  by_file : ∃ files : Directory, files.Perm (d.filter isManifest) ∧
    files.Pairwise (fun a b => a.1 ≤ b.1) ∧ declared = files.flatMap declaredIn

def declared (d : Directory) : List Served := d.manifests.flatMap declaredIn

theorem manifests_perm (d : Directory) : d.manifests.Perm (d.filter isManifest) :=
  List.mergeSort_perm _ _

theorem byName_trans (a b c : FileName × Item) :
    decide (a.1 ≤ b.1) → decide (b.1 ≤ c.1) → decide (a.1 ≤ c.1) := by
  intro hab hbc
  rw [decide_eq_true_eq] at hab hbc ⊢
  exact List.le_trans hab hbc

theorem byName_total (a b : FileName × Item) : decide (a.1 ≤ b.1) || decide (b.1 ≤ a.1) := by
  rw [Bool.or_eq_true, decide_eq_true_eq, decide_eq_true_eq]
  exact List.le_total a.1 b.1

theorem manifests_sorted (d : Directory) : d.manifests.Pairwise fun a b => a.1 ≤ b.1 := by
  have hsorted := List.pairwise_mergeSort byName_trans byName_total (d.filter isManifest)
  exact hsorted.imp fun h => of_decide_eq_true h

theorem declares_declared (d : Directory) : Declares d d.declared :=
  ⟨d.manifests, d.manifests_perm, d.manifests_sorted, rfl⟩

theorem declaredIn_eq (dir : Bytes) (file : FileName × Item) :
    declaredIn file =
      match Handler.load dir file.1 (some file.2) with
      | .ok h => h.served
      | .error _ => [] := by
  rw [declaredIn, Handler.load]
  cases Item.read (some file.2) with
  | error cause => cases file.1.format? <;> rfl
  | ok text =>
    cases file.1.format? with
    | none => rfl
    | some format =>
      dsimp only
      cases Manifest.parse? format text.toList <;> rfl

theorem map_route_served (h : Handler) : h.served.map Served.route = h.routes := by
  rw [Handler.served, List.map_map]
  rfl

theorem routes_eq (dir : Bytes) (d : Directory) : d.routes dir = d.declared.map Served.route := by
  rw [routes, handlers, Handler.value_loadAll, declared]
  induction d.manifests with
  | nil => rfl
  | cons file files ih =>
    rw [List.flatMap_cons, List.map_append, ← ih, declaredIn_eq dir]
    cases hload : Handler.load dir file.1 (some file.2) with
    | error e => rw [List.filterMap_cons_none (by rw [hload]; rfl), List.map_nil, List.nil_append]
    | ok h =>
      rw [List.filterMap_cons_some (by rw [hload]; rfl), List.flatMap_cons, map_route_served]

end Directory

section Sharing

variable {α : Type}

theorem toRoute_share (first : Nat) (routes : List (Route α)) :
    (share first routes).map SharedRoute.toRoute = routes := by
  rw [share, List.map_map]
  exact List.zipIdx_map_fst first routes

end Sharing

theorem exists_served_of_mem_share {dir : Bytes} {d : Directory} {first : Nat}
    {r : SharedRoute Served} (h : r ∈ share first (d.routes dir)) :
    ∃ s : Served, r.toRoute = s.route := by
  have hmem := List.mem_map_of_mem h (f := SharedRoute.toRoute)
  rw [toRoute_share, Directory.routes_eq] at hmem
  obtain ⟨s, -, hs⟩ := List.mem_map.mp hmem
  exact ⟨s, hs.symm⟩

theorem value_loadRoutes (dir : Bytes) (d : Directory) (first : Nat) :
    (loadRoutes dir (.ok d) first).value = .ok (share first (d.routes dir)) := rfl

section Engine

variable [Regex.Engine]

theorem value_loadTable (dir : Bytes) (d : Directory) (limit : Nat) :
    (loadTable dir (.ok d) limit).value =
      (Table.ofRoutes (share 0 (d.routes dir)) limit).value.mapError (.rejected dir) := rfl

theorem loadTable_eq_ok_iff {dir : Bytes} {listing : Listing} {limit : Nat} {t : Table Served} :
    (loadTable dir listing limit).value = .ok t ↔
      ∃ d, listing = .ok d ∧
        (Table.ofRoutes (share 0 (d.routes dir)) limit).value = .ok t := by
  cases listing with
  | error e => simp [loadTable, loadRoutes]
  | ok d =>
    simp only [Except.ok.injEq, exists_eq_left', value_loadTable]
    cases (Table.ofRoutes (share 0 (d.routes dir)) limit).value with
    | error e => simp [Except.mapError]
    | ok t' => simp [Except.mapError]

theorem loadTable_listed_eq_ok_iff {dir : Bytes} {d : Directory} {limit : Nat} {t : Table Served} :
    (loadTable dir (.ok d) limit).value = .ok t ↔
      (Table.ofRoutes (share 0 (d.routes dir)) limit).value = .ok t := by
  simp [loadTable_eq_ok_iff]

/-- The routes of a loaded table are those of the declarations, one for one. -/
theorem routes_of_loadTable {dir : Bytes} {d : Directory} {limit : Nat} {t : Table Served}
    (h : (loadTable dir (.ok d) limit).value = .ok t) :
    t.InStep ∧ t.routes.map (·.value) = d.declared ∧
      ∀ r ∈ t.routes, r.pattern = .template r.value.path := by
  have htable := loadTable_listed_eq_ok_iff.mp h
  obtain ⟨hstep, hroutes, -⟩ := Table.ofRoutes_eq_ok_iff.mp htable
  have hshared : t.routes.map SharedRoute.toRoute = d.declared.map Served.route := by
    rw [hroutes, toRoute_share, Directory.routes_eq]
  refine ⟨hstep, ?_, ?_⟩
  · have hvalues := congrArg (List.map Route.value) hshared
    rw [List.map_map, List.map_map] at hvalues
    exact hvalues.trans (List.map_id _)
  · intro r hr
    have hmem := List.mem_map_of_mem hr (f := SharedRoute.toRoute)
    rw [hshared] at hmem
    obtain ⟨s, -, hs⟩ := List.mem_map.mp hmem
    rw [← hs]
    rfl

theorem templates_of_loadTable {dir : Bytes} {d : Directory} {limit : Nat} {t : Table Served}
    (h : (loadTable dir (.ok d) limit).value = .ok t) :
    ∀ r ∈ t.routes, ∃ template, r.pattern = .template template := by
  intro r hr
  exact ⟨_, (routes_of_loadTable h).2.2 r hr⟩

end Engine

end TemplateRouter
