import TemplateRouter.Proofs.CommandLine.Answers
import TemplateRouter.Proofs.Loading.Failure
/-
The events of a run, in order: those of loading the directory, then two for each path looked up.
-/
namespace TemplateRouter

/-- The handlers of a directory and the reports on the manifests that it skips, both by ascending
file name, and what is told of them: each report, and then the patterns of all handlers. -/
structure Directory.Tells (dir : Bytes) (d : Directory) (handlers : List Handler)
    (records : List Report) (events : List Event) : Prop where
  account : ∃ files : Directory, files.Perm (d.filter isManifest) ∧
    (files.Pairwise fun a b => a.1 ≤ b.1) ∧ Accounted dir files handlers records
  skipped : ∀ record ∈ records, ∃ path handler error, record = .skipped path handler error
  events_eq : events = records.map (Report.event handlers.length) ++
    [.handlersLoaded (Text.Utf8.display dir) handlers.length
      (handlers.flatMap fun h => h.manifest.map Declaration.path)]

/-- What is told of loading a directory: first of its files, and then of its table. A table is built
unless some template is too large, and one that scans has routes. -/
inductive TellsLoading [Regex.Engine] (dir : Bytes) (limit : Nat) :
    Listing → List Event → Prop where
  | unlisted (cause : FileError) : TellsLoading dir limit (.error cause) []
  | oversized {d : Directory} {handlers : List Handler} {records : List Report}
      {events : List Event} :
      d.Tells dir handlers records events →
      d.DeclaresOversized dir limit →
      TellsLoading dir limit (.ok d) events
  | scanning {d : Directory} {handlers : List Handler} {records : List Report}
      {events : List Event} {t : Table Served} :
      d.Tells dir handlers records events →
      ¬ d.DeclaresOversized dir limit →
      (loadTable dir (.ok d) limit).value = .ok t →
      t.switch.isLinear = true →
      t.switch.isEmpty = false →
      TellsLoading dir limit (.ok d) (events ++
        [.fallbackToLinear t.size limit, .tableBuilt t.size (t.patterns.take 10)])
  | combined {d : Directory} {handlers : List Handler} {records : List Report}
      {events : List Event} {t : Table Served} :
      d.Tells dir handlers records events →
      ¬ d.DeclaresOversized dir limit →
      (loadTable dir (.ok d) limit).value = .ok t →
      t.switch.isLinear = false →
      TellsLoading dir limit (.ok d) (events ++ [.tableBuilt t.size (t.patterns.take 10)])

/-- What is told of looking paths up, next to the lines written for them. -/
inductive TellsLookups (t : Table Served) : List String → List String → List Event → Prop where
  | nil : TellsLookups t [] [] []
  | missed {path : String} {paths lines : List String} {events : List Event} :
      t.match? path = none →
      TellsLookups t paths lines events →
      TellsLookups t (path :: paths) ("null" :: lines)
        (.matchAttempt path t.size :: .noRouteMatched path :: events)
  | matched {path line : String} {paths lines : List String} {events : List Event}
      {m : RouteMatch Served} :
      t.match? path = some m →
      line ≠ "null" →
      TellsLookups t paths lines events →
      TellsLookups t (path :: paths) (line :: lines) (.matchAttempt path t.size ::
        .routeMatched path m.route.pattern.text m.params :: events)

namespace Command

/-- What is told after loading, next to what is written: only lookups tell anything. -/
inductive TellsServing (s : Surroundings) (lines : List String) :
    Except LoadError (Table Served) → Command → List Event → Prop where
  | refused (e : LoadError) (c : Command) : TellsServing s lines (.error e) c []
  | listed (t : Table Served) (handlers : Option String) (json : Bool) :
      TellsServing s lines (.ok t) (.routes handlers json) []
  | answered {t : Table Served} {paths : List String} {events : List Event}
      (handlers : Option String) (watch : Bool) :
      TellsLookups t (asked paths s.input) lines events →
      TellsServing s lines (.ok t) (.lookUp handlers watch paths) events

end Command

variable {dir : Bytes} {d : Directory} {limit : Nat} {t : Table Served}

theorem Accounted.skipped_of_mem {files : Directory} {handlers : List Handler}
    {records : List Report} (h : Accounted dir files handlers records) :
    ∀ record ∈ records, ∃ path handler error, record = .skipped path handler error := by
  induction h with
  | nil => simp
  | loaded _ _ _ _ ih => exact ih
  | skipped _ _ _ ih => exact List.forall_mem_cons.mpr ⟨⟨_, _, _, rfl⟩, ih⟩

theorem Directory.tells_reports (dir : Bytes) (d : Directory) :
    d.Tells dir (d.handlers dir) (d.skipped dir)
      ((reportsOn dir (.ok d)).map (Report.event (d.handlers dir).length)) where
  account := ⟨d.manifests, d.manifests_perm, d.manifests_sorted, d.accounted_manifests dir⟩
  skipped := (d.accounted_manifests dir).skipped_of_mem
  events_eq := by
    rw [reportsOn_eq, List.map_append, ← (d.notice_loaded dir).patterns_eq]
    rfl

theorem Directory.Tells.not_started {handlers : List Handler} {records : List Report}
    {events : List Event} (h : d.Tells dir handlers records events) (watched : String) :
    .watchStarted watched ∉ events := by
  rw [h.events_eq]
  intro hmem
  rcases List.mem_append.mp hmem with hreported | hloaded
  · obtain ⟨record, hrecord, hevent⟩ := List.mem_map.mp hreported
    obtain ⟨path, handler, error, rfl⟩ := h.skipped record hrecord
    cases hevent
  · cases List.mem_singleton.mp hloaded

theorem TellsLookups.not_started {paths lines : List String} {events : List Event}
    (h : TellsLookups t paths lines events) (watched : String) :
    .watchStarted watched ∉ events := by
  induction h with
  | nil => exact List.not_mem_nil
  | missed _ _ ih => simp [ih]
  | matched _ _ _ ih => simp [ih]

theorem Command.TellsServing.not_started {s : Surroundings} {lines : List String}
    {loaded : Except LoadError (Table Served)} {c : Command} {events : List Event}
    (h : TellsServing s lines loaded c events) (watched : String) :
    .watchStarted watched ∉ events := by
  cases h with
  | refused e c => exact List.not_mem_nil
  | listed t handlers json => exact List.not_mem_nil
  | answered handlers watch hlookups => exact hlookups.not_started watched

section Engine

variable [Regex.Engine]

theorem TellsLoading.not_started {listing : Listing} {events : List Event}
    (h : TellsLoading dir limit listing events) (watched : String) :
    .watchStarted watched ∉ events := by
  cases h with
  | unlisted cause => exact List.not_mem_nil
  | oversized htells _ => exact htells.not_started watched
  | scanning htells _ _ _ _ => simp [htells.not_started watched]
  | combined htells _ _ _ => simp [htells.not_started watched]

/-- Only a set that is too large is scanned, and the empty one is never made. -/
theorem Table.isEmpty_of_isLinear {α : Type} {t : Table α} (h : t.InStep)
    (hlinear : t.switch.isLinear = true) : t.switch.isEmpty = false := by
  have hswitched := h.switched
  rw [buildSwitch] at hswitched
  split at hswitched
  · rw [Told.value_pure, Except.ok.injEq] at hswitched
    rw [← hswitched] at hlinear
    cases hlinear
  · next hentries =>
    rw [Switch.isEmpty, h.entries_eq]
    exact Bool.eq_false_iff.mpr hentries

theorem match?_of_loadTable (h : (loadTable dir (.ok d) limit).value = .ok t) (path : String) :
    t.match? path = (share 0 (d.routes dir)).findSome? (RouteMatch.byTemplate path) := by
  obtain ⟨hstep, hroutes, -⟩ := Table.ofRoutes_eq_ok_iff.mp (loadTable_listed_eq_ok_iff.mp h)
  rw [hstep.match?_of_templates (templates_of_loadTable h), hroutes]

theorem size_of_loadTable (h : (loadTable dir (.ok d) limit).value = .ok t) :
    t.size = d.declared.length := by
  rw [← (routes_of_loadTable h).2.1, List.length_map, Table.routes, List.length_map]
  rfl

/-- A log is first told of the files, and then of making the table. -/
theorem events_logged_loadTable (dir : Bytes) (d : Directory) (limit : Nat) :
    (loadTable dir (.ok d) limit).logged.events =
      (reportsOn dir (.ok d)).map (Report.event (d.handlers dir).length) ++
        (Table.ofRoutes (share 0 (d.routes dir)) limit).events := by
  rw [loadTable, Noted.events_logged_bind,
    Noted.events_logged_of_notes (Directory.events_loadRoutes dir d 0), value_loadRoutes]
  dsimp only
  rw [Noted.events_logged_bind, Noted.events_logged_ofTraced]
  exact congrArg _ (List.append_nil _)

theorem tellsLoading_loadTable (dir : Bytes) (limit : Nat) (listing : Listing) :
    TellsLoading dir limit listing (loadTable dir listing limit).logged.events := by
  cases listing with
  | error cause => exact .unlisted cause
  | ok d =>
    have htells := d.tells_reports dir
    have hover : (∃ e, (loadTable dir (.ok d) limit).value = .error e) ↔
        d.DeclaresOversized dir limit := exists_loadTable_error_iff
    rw [events_logged_loadTable, Table.events_ofRoutes]
    cases hvalue : (Table.ofRoutes (share 0 (d.routes dir)) limit).value with
    | error cause =>
      have hfails : (loadTable dir (.ok d) limit).value = .error (.rejected dir cause) := by
        rw [value_loadTable, hvalue]
        rfl
      rw [List.append_nil]
      exact .oversized htells (hover.mp ⟨_, hfails⟩)
    | ok t =>
      have hloads := loadTable_listed_eq_ok_iff.mpr hvalue
      have hnone : ¬ d.DeclaresOversized dir limit := by
        rw [← hover, hloads]
        exact nofun
      obtain ⟨hstep, -, hlimit⟩ := Table.ofRoutes_eq_ok_iff.mp hvalue
      dsimp only
      rw [Table.madeEvents, hlimit]
      split
      · next hlinear =>
        exact .scanning htells hnone hloads hlinear (Table.isEmpty_of_isLinear hstep hlinear)
      · next hlinear =>
        exact .combined htells hnone hloads (Bool.eq_false_iff.mpr hlinear)

end Engine

namespace Command

/-- What is told of a path once it has been looked up. -/
def ending (path : String) : Option (RouteMatch Served) → Event
  | some m => .routeMatched path m.route.pattern.text m.params
  | none => .noRouteMatched path

theorem events_answer (t : Table Served) (path : String) :
    (answer t path).events = [.matchAttempt path t.size, ending path (t.match? path)] := by
  rw [answer, Told.events_bind, Table.lookup, Told.events_bind]
  cases t.match? path <;> rfl

theorem events_answerAll (t : Table Served) (paths : List String) :
    (answerAll t paths).events = paths.flatMap fun path => (answer t path).events := by
  induction paths with
  | nil => rfl
  | cons path paths ih =>
    rw [List.flatMap_cons, ← ih, answerAll, Told.events_bind, Told.events_bind,
      Told.events_pure, List.append_nil]

theorem tellsLookups_answerAll (t : Table Served) (paths : List String) :
    TellsLookups t paths (paths.map fun path => answerLine (answer t path).value)
      (answerAll t paths).events := by
  rw [events_answerAll]
  induction paths with
  | nil => exact .nil
  | cons path paths ih =>
    rw [List.flatMap_cons, events_answer, List.map_cons]
    cases hm : t.match? path with
    | none =>
      rw [answerLine_none hm]
      exact .missed hm ih
    | some m =>
      refine .matched hm ?_ ih
      rw [answerLine_some hm]
      exact Json.text_object_ne_null _

theorem events_lookUp (s : Surroundings) (t : Table Served) (handlers : Option String)
    (watch : Bool) (paths : List String) :
    ((lookUp handlers watch paths).serve s t).events =
      (answerAll t (asked paths s.input)).events := by
  cases paths with
  | nil => exact List.append_nil _
  | cons path rest => exact List.append_nil _

/-- Only a command that is given no paths watches. -/
theorem lookUp_of_watches {c : Command} {settings : Settings} (h : c.watches settings = true) :
    ∃ handlers watch, c = .lookUp handlers watch [] := by
  cases c with
  | routes handlers json => cases h
  | lookUp handlers watch paths =>
    cases paths with
    | nil => exact ⟨handlers, watch, rfl⟩
    | cons path rest => cases h

section Engine

variable [Regex.Engine]

theorem events_run {c : Command} {s : Surroundings} (h : c.Starts s) :
    (c.run s).events = (c.load s).events ++
      match (c.load s).value with
      | .error _ => []
      | .ok t =>
        (if c.watches (.ofEnvironment s.environment) then
          [.watchStarted (Text.Utf8.display (c.directory (.ofEnvironment s.environment)))]
        else []) ++ (c.serve s t).events := by
  rw [run, Told.events_bind, load]
  cases (loadTable _ _ _).logged.value with
  | error e => rfl
  | ok t =>
    dsimp only
    split
    · next hwatches =>
      rw [h hwatches]
      rfl
    · rfl

/-- The events of a run that does not watch: what became of each manifest and of the table, and then
in turn what became of each path. -/
def Tells (c : Command) (s : Surroundings) (events : List Event) : Prop :=
  let settings := Settings.ofEnvironment s.environment
  ∃ loading serving, events = loading ++ serving ∧
    TellsLoading (c.directory settings) settings.sizeLimit (s.list (c.directory settings))
      loading ∧
    TellsServing s (c.run s).value.lines (c.load s).value c serving

theorem tells_run {c : Command} {s : Surroundings}
    (h : c.watches (.ofEnvironment s.environment) = false) : c.Tells s (c.run s).events := by
  have hstarts : c.Starts s := fun hwatches => absurd (h.symm.trans hwatches) Bool.false_ne_true
  refine ⟨_, _, events_run hstarts, tellsLoading_loadTable _ _ _, ?_⟩
  cases hvalue : (c.load s).value with
  | error e => exact .refused e c
  | ok t =>
    dsimp only
    rw [h, (proceeds hvalue).serves hstarts]
    cases c with
    | routes handlers json => exact .listed t handlers json
    | lookUp handlers watch paths =>
      have hlookups := tellsLookups_answerAll t (asked paths s.input)
      rw [← lines_lookUp s t handlers watch, ← events_lookUp s t handlers watch] at hlookups
      exact .answered handlers watch hlookups

theorem watches_of_started {c : Command} {s : Surroundings} {watched : String}
    (h : .watchStarted watched ∈ (c.run s).events) :
    c.watches (.ofEnvironment s.environment) = true := by
  rw [← Bool.not_eq_false]
  intro hwatches
  obtain ⟨loading, serving, hevents, hloading, hserving⟩ := tells_run hwatches
  rw [hevents, List.mem_append] at h
  exact h.elim (hloading.not_started watched) (hserving.not_started watched)

/-- Only what the settings say is seen of the environment. -/
theorem run_congr (c : Command) (s : Surroundings) {env : Environment}
    (h : Settings.ofEnvironment env = Settings.ofEnvironment s.environment) :
    c.run { s with environment := env } = c.run s := by
  have hserve : ∀ t, c.serve { s with environment := env } t = c.serve s t := by
    intro t
    cases c with
    | routes handlers json => rfl
    | lookUp handlers watch paths => cases paths <;> rfl
  simp only [run, h, hserve]

end Engine

end Command

end TemplateRouter
