import TemplateRouter.Proofs.Loading.Account
import TemplateRouter.Proofs.Text.Decoding
/-
Which files with a dot at the front are left out. A directory is loaded by its manifests alone, and
such a file is one of them if its name is no text and ends in a known extension.
-/
namespace TemplateRouter

theorem FileName.isHidden_dot_iff {rest : Bytes} :
    FileName.isHidden (46 :: rest) = true ↔ ∃ s, Text.Utf8.encode s = 46 :: rest := by
  simp only [isHidden, Option.any_eq_true, Text.Utf8.decode?_eq_some_iff, beq_iff_eq]
  constructor
  · rintro ⟨s, hs, -⟩
    exact ⟨s, hs⟩
  · rintro ⟨s, hs⟩
    obtain ⟨cs, hcs⟩ := Text.Utf8.exists_toList_of_encode hs (by decide)
    refine ⟨s, hs, ?_⟩
    rw [hcs]
    rfl

theorem loadRoutes_congr {dir : Bytes} {d d' : Directory} (h : d.manifests = d'.manifests)
    (first : Nat) : loadRoutes dir (.ok d) first = loadRoutes dir (.ok d') first := by
  simp only [loadRoutes, h]

section Engine

variable [Regex.Engine]

/-- Two directories that no load tells apart, be it the first one or a later one. -/
structure LoadAlike (dir : Bytes) (d d' : Directory) : Prop where
  handlers_eq : d.handlers dir = d'.handlers dir
  reports_eq : reportsOn dir (.ok d) = reportsOn dir (.ok d')
  routes_eq : ∀ first, loadRoutes dir (.ok d) first = loadRoutes dir (.ok d') first
  table_eq : ∀ limit, loadTable dir (.ok d) limit = loadTable dir (.ok d') limit
  reload_eq : ∀ w : Watch, w.dir = dir → w.reload (.ok d) = w.reload (.ok d')

variable {dir : Bytes} {d d' : Directory}

theorem loadAlike_of_manifests (h : d.manifests = d'.manifests) : LoadAlike dir d d' := by
  refine ⟨?_, ?_, loadRoutes_congr h, ?_, ?_⟩
  · rw [Directory.handlers, Directory.handlers, h]
  · rw [reportsOn, reportsOn, loadRoutes_congr h]
  · intro limit
    rw [loadTable, loadTable, loadRoutes_congr h]
  · intro w _
    rw [Watch.reload, Watch.reload, loadRoutes_congr h]

theorem LoadAlike.length_manifests (h : LoadAlike dir d d') :
    d.manifests.length = d'.manifests.length := by
  have hreports : (d.skipped dir).length = (d'.skipped dir).length := by
    have hlength := congrArg List.length h.reports_eq
    rw [Directory.reportsOn_eq, Directory.reportsOn_eq, List.length_append,
      List.length_append] at hlength
    exact Nat.add_right_cancel hlength
  rw [← (d.accounted_manifests dir).length_eq, ← (d'.accounted_manifests dir).length_eq,
    h.handlers_eq, hreports]

end Engine

namespace Directory

variable {before after : Directory} {file : FileName × Item}

theorem manifests_of_not_selected (h : ¬ Selected file) :
    manifests (before ++ file :: after) = manifests (before ++ after) := by
  rw [← isManifest_iff] at h
  rw [manifests, manifests, List.filter_append, List.filter_append, List.filter_cons_of_neg h]

theorem length_manifests_of_selected (h : Selected file) :
    (manifests (before ++ file :: after)).length = (manifests (before ++ after)).length + 1 := by
  rw [← isManifest_iff] at h
  rw [(manifests_perm _).length_eq, (manifests_perm _).length_eq, List.filter_append,
    List.filter_append, List.filter_cons_of_pos h, List.length_append, List.length_append,
    List.length_cons]
  omega

theorem selected_file_iff {name : FileName} {content : Content} :
    Selected (name, .file content) ↔
      name.isHidden = false ∧ ∃ stem format, name.Promises stem format := by
  constructor
  · rintro ⟨-, stem, format, -, hshown, hname⟩
    exact ⟨hshown, stem, format, hname⟩
  · rintro ⟨hshown, stem, format, hname⟩
    exact ⟨content, stem, format, rfl, hshown, hname⟩

section Engine

variable [Regex.Engine]

/-- A file leaves no trace in a load exactly if it is not one of the manifests. -/
theorem loadAlike_without_iff (dir : Bytes) :
    LoadAlike dir (before ++ file :: after) (before ++ after) ↔ ¬ Selected file := by
  constructor
  · intro halike hselected
    have hlength := halike.length_manifests
    rw [length_manifests_of_selected hselected] at hlength
    omega
  · intro h
    exact loadAlike_of_manifests (manifests_of_not_selected h)

/-- A file with a dot at the front of its name is ignored, whatever it holds, exactly if the name is
a text or promises no format. -/
theorem dotted_ignored_iff (dir rest : Bytes) (content : Content) (before after : Directory) :
    LoadAlike dir (before ++ (46 :: rest, .file content) :: after) (before ++ after) ↔
      (∃ s, Text.Utf8.encode s = 46 :: rest) ∨
        ∀ stem format, ¬ FileName.Promises (46 :: rest) stem format := by
  rw [loadAlike_without_iff, selected_file_iff, not_and_or, Bool.not_eq_false,
    FileName.isHidden_dot_iff]
  simp only [not_exists]

end Engine

attribute [local instance] Regex.Engine.counted

/-- A name with a dot at the front that is no text, and so is not hidden. -/
theorem dotted_not_ignored :
    ∃ d : Directory,
      d = [([46, 255, 46, 106, 115, 111, 110],
        .file (.bytes (Text.Utf8.encode "\x7b\"routes\":[\x7b\"path\":\"/x\"\x7d]\x7d")))] ∧
      d.declared.map (fun s => (s.handler, s.path)) = [("", "/x")] ∧ ¬ LoadAlike [] d [] := by
  let d : Directory := [([46, 255, 46, 106, 115, 111, 110],
    .file (.bytes (Text.Utf8.encode "\x7b\"routes\":[\x7b\"path\":\"/x\"\x7d]\x7d")))]
  have hfiles : d.manifests = d := by
    rw [manifests_of_listed (List.pairwise_singleton _ _)]
    decide +kernel
  refine ⟨d, rfl, ?_, ?_⟩
  · rw [declared, hfiles]
    decide +kernel
  · intro halike
    have hlength := halike.length_manifests
    rw [hfiles, manifests_of_listed List.Pairwise.nil] at hlength
    cases hlength

end Directory

end TemplateRouter
