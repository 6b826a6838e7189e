import TemplateRouter.Proofs.Loading.Account
import TemplateRouter.Proofs.Loading.Reload
/-
When a directory does not load. Either it cannot be listed, or a template that it declares is too
large on its own; nothing else that its files hold is an error of the whole.
-/
namespace TemplateRouter

section Declared

variable {dir : Bytes} {d : Directory}

theorem Directory.mem_declared_iff (dir : Bytes) {s : Served} :
    s ∈ d.declared ↔ ∃ file ∈ d, Selected file ∧ ∃ handler,
      Handler.load dir file.1 (some file.2) = .ok handler ∧ s ∈ handler.served := by
  rw [declared, List.mem_flatMap]
  constructor
  · rintro ⟨file, hfile, hs⟩
    obtain ⟨hmem, hselected⟩ := mem_manifests_iff.mp hfile
    rw [declaredIn_eq dir] at hs
    cases hload : Handler.load dir file.1 (some file.2) with
    | error cause => simp [hload] at hs
    | ok handler =>
      rw [hload] at hs
      exact ⟨file, hmem, hselected, handler, hload, hs⟩
  · rintro ⟨file, hmem, hselected, handler, hload, hs⟩
    refine ⟨file, mem_manifests_iff.mpr ⟨hmem, hselected⟩, ?_⟩
    rw [declaredIn_eq dir, hload]
    exact hs

theorem Directory.path_mem_patterns {notice : Report} (h : Notice dir (d.handlers dir) notice)
    {s : Served} (hs : s ∈ d.declared) : s.path ∈ notice.patterns := by
  have hpatterns := (d.notice_loaded dir).patterns_eq
  rw [h.patterns_eq, ← hpatterns, Directory.notice, Report.patterns, Directory.routes_eq,
    List.map_map]
  exact List.mem_map_of_mem hs

end Declared

section Engine

variable [Regex.Engine] {limit : Nat}

variable {dir : Bytes} {d : Directory} {e : LoadError}

theorem isFirst_share_iff {first : Nat} {s : Served} :
    (∃ r, IsFirst (fun r => r.Oversized limit) (share first (d.routes dir)) r ∧
      r.toRoute = s.route) ↔ IsFirst (fun s => Template.Oversized limit s.path) d.declared s := by
  have hroutes : (share first (d.routes dir)).map SharedRoute.toRoute =
      d.declared.map Served.route := by
    rw [toRoute_share, Directory.routes_eq]
  have hinj : ∀ s', Served.route s' = s.route → s' = s := by
    intro s' hs'
    exact congrArg Route.value hs'
  have hmap := IsFirst.map_iff (p := fun r : Route Served => r.Oversized limit) (b := s.route)
    (g := SharedRoute.toRoute) (l := share first (d.routes dir))
  rw [← hmap, hroutes, IsFirst.map_iff]
  simp only [Served.oversized_route_iff]
  constructor
  · rintro ⟨s', hfirst, hs'⟩
    rw [hinj s' hs'] at hfirst
    exact hfirst
  · intro hfirst
    exact ⟨s, hfirst, rfl⟩

theorem refusal_share_iff {e : RouteError} :
    Refusal limit (share 0 (d.routes dir)) e ↔
      ∃ s, IsFirst (fun s => Template.Oversized limit s.path) d.declared s ∧
        e = .invalidTemplate s.path (.sizeExceeded limit) := by
  constructor
  · intro h
    cases h with
    | @oversized r template hfirst hpattern =>
      obtain ⟨s, hs⟩ := exists_served_of_mem_share hfirst.mem
      have htemplate : RoutePattern.template s.path = .template template := by
        rw [← hpattern, hs]
        rfl
      rw [RoutePattern.template.injEq] at htemplate
      exact ⟨s, isFirst_share_iff.mp ⟨r, hfirst, hs⟩, by rw [htemplate]⟩
    | unreadable _ hfirst hpattern _ =>
      -- No route of a directory is an expression of the caller.
      obtain ⟨template, htemplate⟩ := template_of_share hfirst.mem
      rw [hpattern] at htemplate
      cases htemplate
  · rintro ⟨s, hfirst, rfl⟩
    obtain ⟨r, hfirst, hr⟩ := isFirst_share_iff.mpr hfirst
    exact .oversized hfirst (congrArg Route.pattern hr)

theorem records_loadTable (dir : Bytes) (d : Directory) (limit : Nat) :
    (loadTable dir (.ok d) limit).records = d.skipped dir ++ [d.notice dir] := by
  simp only [loadTable, Noted.records_bind, Directory.records_loadRoutes, value_loadRoutes,
    Noted.records_ofTraced, Noted.records_pure, List.append_nil]

/-- A load first tells of the files, and then what is told of making the table. -/
theorem events_loadTable (dir : Bytes) (d : Directory) (limit : Nat) :
    (loadTable dir (.ok d) limit).events =
      (reportsOn dir (.ok d)).flatMap (Report.notes (d.handlers dir).length) ++
        (Table.ofRoutes (share 0 (d.routes dir)) limit).events.map .event := by
  rw [loadTable, Told.events_bind, Directory.events_loadRoutes, value_loadRoutes]
  dsimp only
  rw [Told.events_bind, Told.events_pure, List.append_nil]
  rfl

theorem loadTable_eq_error_iff :
    (loadTable dir (.ok d) limit).value = .error e ↔
      ∃ s, IsFirst (fun s => Template.Oversized limit s.path) d.declared s ∧
        e = .rejected dir (.invalidTemplate s.path (.sizeExceeded limit)) := by
  have herror : (loadTable dir (.ok d) limit).value = .error e ↔
      ∃ cause, (Table.ofRoutes (share 0 (d.routes dir)) limit).value = .error cause ∧
        e = .rejected dir cause := by
    rw [value_loadTable]
    cases (Table.ofRoutes (share 0 (d.routes dir)) limit).value with
    | error cause => simp [Except.mapError, eq_comm]
    | ok t => simp [Except.mapError]
  simp only [herror, Table.value_ofRoutes_eq_error_iff, refusal_share_iff]
  constructor
  · rintro ⟨cause, ⟨s, hfirst, rfl⟩, rfl⟩
    exact ⟨s, hfirst, rfl⟩
  · rintro ⟨s, hfirst, rfl⟩
    exact ⟨_, ⟨s, hfirst, rfl⟩, rfl⟩

/-- Some manifest that loads declares a template that does not compile on its own. -/
def Directory.DeclaresOversized (dir : Bytes) (limit : Nat) (d : Directory) : Prop :=
  ∃ file ∈ d, Selected file ∧ ∃ handler, Handler.load dir file.1 (some file.2) = .ok handler ∧
    ∃ declaration ∈ handler.manifest, Template.Oversized limit declaration.path

theorem Directory.declaresOversized_iff :
    d.DeclaresOversized dir limit ↔ ∃ s ∈ d.declared, Template.Oversized limit s.path := by
  simp only [DeclaresOversized, mem_declared_iff dir, Handler.served, List.mem_map]
  constructor
  · rintro ⟨file, hmem, hselected, handler, hload, declaration, hdeclaration, hover⟩
    exact ⟨_, ⟨file, hmem, hselected, handler, hload, declaration, hdeclaration, rfl⟩, hover⟩
  · rintro ⟨s, ⟨file, hmem, hselected, handler, hload, declaration, hdeclaration, rfl⟩, hover⟩
    exact ⟨file, hmem, hselected, handler, hload, declaration, hdeclaration, hover⟩

theorem exists_loadTable_error_iff :
    (∃ e, (loadTable dir (.ok d) limit).value = .error e) ↔ d.DeclaresOversized dir limit := by
  simp only [loadTable_eq_error_iff, Directory.declaresOversized_iff]
  constructor
  · rintro ⟨e, s, hfirst, -⟩
    exact ⟨s, hfirst.mem, hfirst.holds⟩
  · rintro ⟨s, hmem, hover⟩
    obtain ⟨s, hfirst⟩ :=
      IsFirst.exists_of_mem (p := fun s : Served => Template.Oversized limit s.path) hmem hover
    exact ⟨_, s, hfirst, rfl⟩

theorem value_loadTable_filter {keep : FileName × Item → Bool}
    (h : ∀ file ∈ d, keep file = false → Directory.Selected file →
      ∃ error, Handler.load dir file.1 (some file.2) = .error error) :
    (loadTable dir (.ok (d.filter keep)) limit).value = (loadTable dir (.ok d) limit).value := by
  have hnil : ∀ file ∈ d.manifests, keep file = false → Directory.declaredIn file = [] := by
    intro file hfile hdropped
    obtain ⟨hmem, hselected⟩ := Directory.mem_manifests_iff.mp hfile
    obtain ⟨error, herror⟩ := h file hmem hdropped hselected
    rw [Directory.declaredIn_eq dir, herror]
  have hroutes : Directory.routes dir (d.filter keep) = d.routes dir := by
    rw [Directory.routes_eq, Directory.routes_eq, Directory.declared, Directory.declared,
      Directory.manifests_filter, flatMap_filter_of_nil hnil]
  rw [value_loadTable, value_loadTable, hroutes]

theorem exists_loadTable_of_each
    (h : ∀ r ∈ d.routes dir, ∃ t, (Table.ofRoutes (share 0 [r]) limit).value = .ok t) :
    ∃ t, (loadTable dir (.ok d) limit).value = .ok t := by
  rw [exists_loadTable_listed_iff]
  intro r hr
  have halone := (exists_ofRoutes_share_iff 0 [r]).mp (h r hr)
  exact halone r List.mem_cons_self

/-- What is told and said of a listed directory that may fail to load. -/
structure FailsByOversized (dir : Bytes) (limit : Nat) (d : Directory) : Prop where
  declares : d.Declares d.declared
  fails_iff : (∃ e, (loadTable dir (.ok d) limit).value = .error e) ↔ d.DeclaresOversized dir limit
  error : ∀ e, (loadTable dir (.ok d) limit).value = .error e →
    ∃ s, IsFirst (fun s => Template.Oversized limit s.path) d.declared s ∧
      e = .rejected dir (.invalidTemplate s.path (.sizeExceeded limit)) ∧
      e.chain = ["failed to build routes from " ++ Text.Utf8.display dir,
        "invalid route template '" ++ s.path ++ "': " ++
          ("Compiled regex exceeds size limit of " ++ toString limit ++ " bytes."),
        "Compiled regex exceeds size limit of " ++ toString limit ++ " bytes."]
  no_build : ∀ patterns cause,
    (loadTable dir (.ok d) limit).value ≠ .error (.rejected dir (.build patterns cause))
  each_alone : (∀ r ∈ d.routes dir, ∃ t, (Table.ofRoutes (share 0 [r]) limit).value = .ok t) →
    ∃ t, (loadTable dir (.ok d) limit).value = .ok t
  unusable : ∀ keep : FileName × Item → Bool,
    (∀ file ∈ d, keep file = false → Directory.Selected file →
      ∃ error, Handler.load dir file.1 (some file.2) = .error error) →
    (loadTable dir (.ok (d.filter keep)) limit).value = (loadTable dir (.ok d) limit).value
  accounted : Accounted dir d.manifests (d.handlers dir) (d.skipped dir)
  reports : ∃ notice, Notice dir (d.handlers dir) notice ∧
    (∀ larger, (loadTable dir (.ok d) larger).records = d.skipped dir ++ [notice]) ∧
    ∀ s ∈ d.declared, s.path ∈ notice.patterns
  events_of_error : ∀ e, (loadTable dir (.ok d) limit).value = .error e →
    (loadTable dir (.ok d) limit).events =
      (loadTable dir (.ok d) limit).records.flatMap (Report.notes (d.handlers dir).length)
  events_of_ok : ∀ larger t, (loadTable dir (.ok d) larger).value = .ok t →
    (loadTable dir (.ok d) larger).events =
      (loadTable dir (.ok d) limit).records.flatMap (Report.notes (d.handlers dir).length) ++
        t.madeEvents.map .event

theorem failsByOversized (dir : Bytes) (limit : Nat) (d : Directory) :
    FailsByOversized dir limit d where
  declares := d.declares_declared
  fails_iff := exists_loadTable_error_iff
  error e he := by
    obtain ⟨s, hfirst, rfl⟩ := loadTable_eq_error_iff.mp he
    exact ⟨s, hfirst, rfl, rfl⟩
  no_build patterns cause h := by
    obtain ⟨s, -, hs⟩ := loadTable_eq_error_iff.mp h
    cases hs
  each_alone := exists_loadTable_of_each
  unusable _ := value_loadTable_filter
  accounted := d.accounted_manifests dir
  reports := by
    have hnotice := d.notice_loaded dir
    exact ⟨_, hnotice, records_loadTable dir d, fun s hs => Directory.path_mem_patterns hnotice hs⟩
  events_of_error e he := by
    obtain ⟨cause, hcause⟩ : ∃ cause,
        (Table.ofRoutes (share 0 (d.routes dir)) limit).value = .error cause := by
      obtain ⟨s, hfirst, -⟩ := loadTable_eq_error_iff.mp he
      exact ⟨_, Table.value_ofRoutes_eq_error_iff.mpr (refusal_share_iff.mpr ⟨s, hfirst, rfl⟩)⟩
    rw [events_loadTable, records_loadTable, ← Directory.reportsOn_eq, Table.events_ofRoutes,
      hcause]
    exact List.append_nil _
  events_of_ok larger t ht := by
    rw [events_loadTable, records_loadTable, ← Directory.reportsOn_eq, Table.events_ofRoutes,
      loadTable_listed_eq_ok_iff.mp ht]

/-- A load fails if the directory cannot be listed, and then tells nothing; else only by a template
that is too large, and then it has told what a load under a larger limit tells. -/
theorem load_fails_by_oversized (dir : Bytes) (limit : Nat) (listing : Listing) :
    ((∃ e, (loadTable dir listing limit).value = .error e) ↔
      (∃ cause, listing = .error cause) ∨ ∃ d, listing = .ok d ∧ d.DeclaresOversized dir limit) ∧
    (∀ cause, listing = .error cause →
      (loadTable dir listing limit).value = .error (.unlisted dir cause) ∧
      (loadTable dir listing limit).events = []) ∧
    ∀ d, listing = .ok d → FailsByOversized dir limit d := by
  refine ⟨?_, ?_, fun d _ => failsByOversized dir limit d⟩
  · cases listing with
    | error cause => exact iff_of_true ⟨_, rfl⟩ (.inl ⟨cause, rfl⟩)
    | ok d => simp [exists_loadTable_error_iff]
  · rintro cause rfl
    exact ⟨rfl, rfl⟩

end Engine

attribute [local instance] Regex.Engine.counted

/-- With a file that is no text before one whose second template is too large. -/
theorem load_fails_by_oversized_second :
    ∃ d : Directory, d.map (fun file => Text.Utf8.decode? file.1) = [some "a.json", some "b.toml"] ∧
      FailsByOversized [] 400 d ∧ ∃ e,
        (loadTable [] (.ok d) 400).value = .error e ∧
        e = .rejected [] (.invalidTemplate "/x{a}{b}" (.sizeExceeded 400)) ∧
        (loadTable [] (.ok d) 400).logged.events =
          [.handlerSkipped "a" "a.json"
            ("failed to read handler manifest a.json: " ++ FileError.notText.message),
            .handlersLoaded "" 1 ["/x", "/x{a}{b}"]] := by
  let d : Directory := [(Text.Utf8.encode "a.json", .file (.bytes [255])),
    (Text.Utf8.encode "b.toml",
      .file (.bytes (Text.Utf8.encode "[[routes]]\npath = '/x'\n[[routes]]\npath = '/x{a}{b}'\n")))]
  have hfiles : d.manifests = d := by
    rw [Directory.manifests_of_listed (by decide +kernel)]
    decide +kernel
  have hdeclared : d.declared.map (fun s => s.path) = ["/x", "/x{a}{b}"] := by
    rw [Directory.declared, hfiles]
    decide +kernel
  have hhandlers : (d.handlers []).length = 1 := by
    rw [Directory.handlers, hfiles]
    decide +kernel
  have hrecords : (loadTable [] (.ok d) 400).records =
      [.skipped (Text.Utf8.encode "a.json") "a"
        (.unreadable (Text.Utf8.encode "a.json") .notText),
        .loaded [] ["/x", "/x{a}{b}"]] := by
    rw [records_loadTable, Directory.skipped, Directory.notice, Directory.routes,
      Directory.handlers, hfiles]
    decide +kernel
  have hpaths : ∀ s ∈ d.declared, s.path = "/x" ∨ s.path = "/x{a}{b}" := by
    intro s hs
    have hpath := List.mem_map_of_mem (f := fun s : Served => s.path) hs
    rw [hdeclared] at hpath
    simpa using hpath
  have hsmall : ¬ Template.Oversized 400 "/x" := by
    rw [Template.oversized_iff]
    decide +kernel
  have hlarge : Template.Oversized 400 "/x{a}{b}" := by
    rw [Template.oversized_iff]
    decide +kernel
  obtain ⟨s, hs, hpath⟩ : ∃ s ∈ d.declared, s.path = "/x{a}{b}" := by
    rw [← List.mem_map, hdeclared]
    decide
  obtain ⟨-, -, hlisted⟩ := load_fails_by_oversized [] 400 (.ok d)
  have hfails := hlisted d rfl
  obtain ⟨e, he⟩ := hfails.fails_iff.mpr
    (Directory.declaresOversized_iff.mpr ⟨s, hs, by rw [hpath]; exact hlarge⟩)
  obtain ⟨first, hfirst, hcause, -⟩ := hfails.error e he
  have hsecond : first.path = "/x{a}{b}" := by
    rcases hpaths first hfirst.mem with h | h
    · have hover := hfirst.holds
      rw [h] at hover
      exact absurd hover hsmall
    · exact h
  refine ⟨d, by decide +kernel, hfails, e, he, by rw [hcause, hsecond], ?_⟩
  rw [Noted.events_logged_of_notes (hfails.events_of_error e he), hrecords, hhandlers]
  decide +kernel

end TemplateRouter
