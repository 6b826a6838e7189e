import TemplateRouter.Proofs.Loading.Selection
/-
What a directory of handlers loads to. Each of its manifests becomes a handler or a report, and the
order in which the directory is listed does not matter.
-/
namespace TemplateRouter

/-- The notice that ends a load: the directory, and the patterns of all handlers in their order. -/
structure Notice (dir : Bytes) (handlers : List Handler) (record : Report) : Prop where
  level_eq : record.level = "notice"
  path_eq : record.path = dir
  patterns_eq : record.patterns = handlers.flatMap fun h => h.manifest.map Declaration.path
  message_eq : record.message = Text.Utf8.display dir ++ ": " ++
    toString (handlers.flatMap fun h => h.manifest.map Declaration.path).length ++ " routes"

/-- What a listing gives: handlers, the reports on what was skipped and then one notice, and the
routes of the handlers. The log is told of each report just before the caller. -/
structure LoadsTo (dir : Bytes) (listed : Directory) (handlers : List Handler)
    (records : List Report) : Prop where
  handlers_eq : listed.handlers dir = handlers
  reports_eq : ∃ notice, Notice dir handlers notice ∧
    reportsOn dir (.ok listed) = records ++ [notice]
  events_eq : ∀ first, (loadRoutes dir (.ok listed) first).events =
    (reportsOn dir (.ok listed)).flatMap (Report.notes handlers.length)
  routes_eq : ∀ first, (loadRoutes dir (.ok listed) first).value =
    .ok (share first (handlers.flatMap Handler.routes))

namespace Directory

variable {d listed : Directory}

theorem mem_manifests_iff {file : FileName × Item} :
    file ∈ d.manifests ↔ file ∈ d ∧ Selected file := by
  rw [d.manifests_perm.mem_iff, List.mem_filter, isManifest_iff]

/-- The files a directory selects, in the order in which it visits them. -/
structure Selects (d files : Directory) : Prop where
  mem_iff : ∀ file, file ∈ files ↔ file ∈ d ∧ Selected file
  ascending : files.Pairwise fun a b => a.1 < b.1

theorem selects_manifests (hnames : (d.map Prod.fst).Nodup) : Selects d d.manifests :=
  ⟨fun _ => mem_manifests_iff, manifests_ascending hnames⟩

/-- The reports on the manifests that are skipped. -/
def skipped (dir : Bytes) (d : Directory) : List Report := (Handler.loadAll dir d.manifests).records

def notice (dir : Bytes) (d : Directory) : Report :=
  .loaded dir ((d.routes dir).map fun r => r.pattern.text)

theorem accounted_manifests (dir : Bytes) (d : Directory) :
    Accounted dir d.manifests (d.handlers dir) (d.skipped dir) :=
  Handler.accounted_loadAll fun _ hfile => (mem_manifests_iff.mp hfile).2

theorem records_loadRoutes (dir : Bytes) (d : Directory) (first : Nat) :
    (loadRoutes dir (.ok d) first).records = d.skipped dir ++ [d.notice dir] := by
  simp only [loadRoutes, Noted.records_bind, Noted.records_tell, Noted.records_pure,
    List.append_nil]
  rfl

theorem reportsOn_eq (dir : Bytes) (d : Directory) :
    reportsOn dir (.ok d) = d.skipped dir ++ [d.notice dir] :=
  records_loadRoutes dir d 0

theorem events_loadRoutes (dir : Bytes) (d : Directory) (first : Nat) :
    (loadRoutes dir (.ok d) first).events =
      (reportsOn dir (.ok d)).flatMap (Report.notes (d.handlers dir).length) := by
  rw [reportsOn_eq, List.flatMap_append, skipped, ← Handler.events_loadAll]
  rfl

theorem text_routes (h : Handler) :
    h.routes.map (fun r => r.pattern.text) = h.manifest.map Declaration.path := by
  rw [Handler.routes, List.map_map]
  rfl

theorem notice_loaded (dir : Bytes) (d : Directory) :
    Notice dir (d.handlers dir) (d.notice dir) := by
  have hpatterns : (d.routes dir).map (fun r => r.pattern.text) =
      (d.handlers dir).flatMap fun h => h.manifest.map Declaration.path := by
    simp only [routes, List.map_flatMap, text_routes]
  rw [notice, hpatterns]
  exact ⟨rfl, rfl, rfl, rfl⟩

theorem loadsTo_of_perm (hnames : (d.map Prod.fst).Nodup) (h : listed.Perm d) (dir : Bytes) :
    LoadsTo dir listed (d.handlers dir) (d.skipped dir) := by
  have hmanifests := manifests_of_perm hnames h
  have hhandlers : d.handlers dir = listed.handlers dir := by rw [handlers, handlers, hmanifests]
  have hskipped : d.skipped dir = listed.skipped dir := by rw [skipped, skipped, hmanifests]
  rw [hhandlers, hskipped]
  exact ⟨rfl, ⟨_, listed.notice_loaded dir, reportsOn_eq dir listed⟩,
    events_loadRoutes dir listed, fun _ => rfl⟩

/-- Every manifest of a directory is accounted for once, as a handler or in a report, by ascending
name, in whatever order the directory is listed. -/
theorem directory_accounted (hnames : (d.map Prod.fst).Nodup) (dir : Bytes) :
    ∃ files handlers records, Selects d files ∧ Accounted dir files handlers records ∧
      handlers.length + records.length = files.length ∧
      (∀ record ∈ records, record.level = "error/handler") ∧
      ∀ listed, listed.Perm d → LoadsTo dir listed handlers records := by
  have haccounted := d.accounted_manifests dir
  refine ⟨d.manifests, d.handlers dir, d.skipped dir, selects_manifests hnames, haccounted,
    haccounted.length_eq, haccounted.level_eq, ?_⟩
  intro listed hlisted
  exact loadsTo_of_perm hnames hlisted dir

/-- With a name in capitals, files that are no text and that cannot be read, and a folder with the
name of a manifest. -/
theorem directory_accounted_mixed :
    ∃ d : Directory,
      d.map (fun file => Text.Utf8.decode? file.1) =
        [some "b.YAML", some "d.json", some "a.toml", some "b.json"] ∧
      (d.map Prod.fst).Nodup ∧
      ∃ files handlers records, Selects d files ∧ Accounted [] files handlers records ∧
        handlers.length + records.length = files.length ∧
        (∀ record ∈ records, record.level = "error/handler") ∧
        ∀ listed, listed.Perm d → LoadsTo [] listed handlers records := by
  let d : Directory := [
    (Text.Utf8.encode "b.YAML", .file (.bytes (Text.Utf8.encode "routes:\n- path: /b\n"))),
    (Text.Utf8.encode "d.json", .folder),
    (Text.Utf8.encode "a.toml", .file (.bytes [255])),
    (Text.Utf8.encode "b.json", .file (.unread (.refused "Permission denied (os error 13)")))]
  have hnames : (d.map Prod.fst).Nodup := by decide +kernel
  exact ⟨d, by decide +kernel, hnames, directory_accounted hnames []⟩

end Directory

end TemplateRouter
