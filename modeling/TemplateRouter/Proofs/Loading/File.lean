import TemplateRouter.Loading
import TemplateRouter.Proofs.Loading.Name
/-
What becomes of the files of a directory: each is a handler, or it is skipped, and then the log and
the caller are told of it before the next one is looked at.
-/
namespace TemplateRouter

/-- Why a file that promises a format is of no use. -/
inductive Unusable (dir : Bytes) (name : FileName) (format : Manifest.Format) :
    Content → ManifestError → Prop where
  | unread (cause : FileError) :
      Unusable dir name format (.unread cause) (.unreadable (DirectoryPath.join dir name) cause)
  | notText {bytes : Bytes} :
      Text.Utf8.decode? bytes = none →
      Unusable dir name format (.bytes bytes) (.unreadable (DirectoryPath.join dir name) .notText)
  | malformed {bytes : Bytes} {text : String} :
      Text.Utf8.decode? bytes = some text →
      Manifest.parse? format text.toList = none →
      Unusable dir name format (.bytes bytes) (.malformed (DirectoryPath.join dir name))

section Load

variable {dir : Bytes} {name : FileName} {before : Bytes} {content : Content}
  {format : Manifest.Format}

theorem Handler.load_file (h : name.Promises before format) :
    Handler.load dir name (some (.file content)) =
      match Item.read (some (.file content)) with
      | .error cause => .error (.unreadable (DirectoryPath.join dir name) cause)
      | .ok text =>
        match Manifest.parse? format text.toList with
        | none => .error (.malformed (DirectoryPath.join dir name))
        | some manifest => .ok ⟨(Text.Utf8.decode? before).getD "", manifest⟩ := by
  rw [load]
  cases Item.read (some (.file content)) with
  | error cause => rfl
  | ok text =>
    simp only [FileName.format?_eq_some_iff.mpr ⟨before, h⟩, FileName.stem_of_promises h]
    cases Manifest.parse? format text.toList <;> rfl

theorem Item.read_eq_ok_iff {text : String} :
    Item.read (some (.file content)) = .ok text ↔
      ∃ bytes, content = .bytes bytes ∧ Text.Utf8.decode? bytes = some text := by
  cases content with
  | unread cause => simp [Item.read]
  | bytes bytes =>
    rw [Item.read]
    cases htext : Text.Utf8.decode? bytes <;> simp [htext]

theorem Handler.load_eq_ok_iff (h : name.Promises before format) {handler : Handler} :
    Handler.load dir name (some (.file content)) = .ok handler ↔
      ∃ bytes text manifest, content = .bytes bytes ∧ Text.Utf8.decode? bytes = some text ∧
        Manifest.parse? format text.toList = some manifest ∧
        handler = ⟨(Text.Utf8.decode? before).getD "", manifest⟩ := by
  rw [load_file h]
  constructor
  · intro hload
    cases hread : Item.read (some (.file content)) with
    | error cause => simp [hread] at hload
    | ok text =>
      obtain ⟨bytes, rfl, htext⟩ := Item.read_eq_ok_iff.mp hread
      cases hparse : Manifest.parse? format text.toList with
      | none => simp [hread, hparse] at hload
      | some manifest =>
        simp only [hread, hparse, Except.ok.injEq] at hload
        exact ⟨bytes, text, manifest, rfl, htext, hparse, hload.symm⟩
  · rintro ⟨bytes, text, manifest, rfl, htext, hparse, rfl⟩
    rw [Item.read_eq_ok_iff.mpr ⟨bytes, rfl, htext⟩]
    simp only [hparse]

theorem Handler.load_eq_error_iff (h : name.Promises before format) {error : ManifestError} :
    Handler.load dir name (some (.file content)) = .error error ↔
      Unusable dir name format content error := by
  rw [load_file h]
  constructor
  · intro hload
    cases content with
    | unread cause =>
      cases hload
      exact .unread cause
    | bytes bytes =>
      rw [Item.read] at hload
      cases htext : Text.Utf8.decode? bytes with
      | none =>
        simp only [htext] at hload
        cases hload
        exact .notText htext
      | some text =>
        simp only [htext] at hload
        cases hparse : Manifest.parse? format text.toList with
        | none =>
          simp only [hparse] at hload
          cases hload
          exact .malformed htext hparse
        | some manifest => simp [hparse] at hload
  · intro hunusable
    cases hunusable with
    | unread cause => rfl
    | notText htext => rw [Item.read, htext]
    | malformed htext hparse => simp only [Item.read, htext, hparse]

end Load

/-- What becomes of files in turn: each is a handler that goes by the stem of its name, or it is
reported under that stem with its path and what is wrong with it. -/
inductive Accounted (dir : Bytes) : Directory → List Handler → List Report → Prop where
  | nil : Accounted dir [] [] []
  | loaded {name : FileName} {before bytes : Bytes} {format : Manifest.Format} {text : String}
      {manifest : Manifest} {files : Directory} {handlers : List Handler} {records : List Report} :
      name.Promises before format →
      Text.Utf8.decode? bytes = some text →
      Manifest.parse? format text.toList = some manifest →
      Accounted dir files handlers records →
      Accounted dir ((name, .file (.bytes bytes)) :: files)
        (⟨(Text.Utf8.decode? before).getD "", manifest⟩ :: handlers) records
  | skipped {name : FileName} {before : Bytes} {content : Content} {format : Manifest.Format}
      {error : ManifestError} {files : Directory} {handlers : List Handler}
      {records : List Report} :
      name.Promises before format →
      Unusable dir name format content error →
      Accounted dir files handlers records →
      Accounted dir ((name, .file content) :: files) handlers
        (.skipped (DirectoryPath.join dir name) ((Text.Utf8.decode? before).getD "") error ::
          records)

namespace Accounted

variable {dir : Bytes} {files : Directory} {handlers : List Handler} {records : List Report}

theorem length_eq (h : Accounted dir files handlers records) :
    handlers.length + records.length = files.length := by
  induction h with
  | nil => rfl
  | loaded _ _ _ _ ih =>
    rw [List.length_cons, List.length_cons, ← ih]
    omega
  | skipped _ _ _ ih =>
    rw [List.length_cons, List.length_cons, ← ih]
    omega

theorem level_eq (h : Accounted dir files handlers records) :
    ∀ record ∈ records, record.level = "error/handler" := by
  induction h with
  | nil => simp
  | loaded _ _ _ _ ih => exact ih
  | skipped _ _ _ ih => exact List.forall_mem_cons.mpr ⟨rfl, ih⟩

end Accounted

/-- The event that goes with a record; the one on a whole load also counts the handlers. -/
def Report.event (handlers : Nat) : Report → Event
  | skipped path handler error =>
    .handlerSkipped handler (Text.Utf8.display path) (": ".intercalate error.chain)
  | loaded dir patterns => .handlersLoaded (Text.Utf8.display dir) handlers patterns

/-- What is told with a record: its event to the log, and then the record to the caller. -/
def Report.notes (handlers : Nat) (r : Report) : List Note := [.event (r.event handlers), .record r]

namespace Noted

variable {α β : Type}

@[simp] theorem records_pure (a : α) : records (pure a) = [] := rfl

@[simp] theorem records_bind (x : Noted α) (f : α → Noted β) :
    records (x >>= f) = x.records ++ (f x.value).records :=
  List.filterMap_append

@[simp] theorem records_tell (e : Event) (r : Report) : (tell e r).records = [r] := rfl

@[simp] theorem records_ofTraced (x : Traced α) : (ofTraced x).records = [] := by
  rw [records, ofTraced, List.filterMap_map, List.filterMap_eq_nil_iff]
  exact fun _ _ => rfl

@[simp] theorem value_logged (x : Noted α) : x.logged.value = x.value := rfl

@[simp] theorem events_logged_bind (x : Noted α) (f : α → Noted β) :
    (logged (x >>= f)).events = x.logged.events ++ (f x.value).logged.events :=
  List.filterMap_append

@[simp] theorem events_logged_ofTraced (x : Traced α) : (ofTraced x).logged.events = x.events := by
  rw [logged, ofTraced, List.filterMap_map]
  exact List.filterMap_some

/-- Where the log and the caller are told by turns, the log has the event of each record. -/
theorem events_logged_of_notes {x : Noted α} {handlers : Nat} {records : List Report}
    (h : x.events = records.flatMap (Report.notes handlers)) :
    x.logged.events = records.map (Report.event handlers) := by
  rw [logged, h]
  clear h
  induction records with
  | nil => rfl
  | cons r records ih => exact congrArg (r.event handlers :: ·) ih

end Noted

namespace Handler

variable {dir : Bytes} {files : Directory}

theorem loadAll_cons (dir : Bytes) (file : FileName × Item) (files : Directory) :
    loadAll dir (file :: files) =
      match load dir file.1 (some file.2) with
      | .ok h => loadAll dir files >>= fun handlers => pure (h :: handlers)
      | .error e =>
        Noted.tell (.handlerSkipped file.1.stem
          (Text.Utf8.display (DirectoryPath.join dir file.1)) (": ".intercalate e.chain))
          (.skipped (DirectoryPath.join dir file.1) file.1.stem e) >>= fun _ =>
        loadAll dir files := rfl

theorem value_loadAll (dir : Bytes) (files : Directory) :
    (loadAll dir files).value =
      files.filterMap fun file => (load dir file.1 (some file.2)).toOption := by
  induction files with
  | nil => rfl
  | cons file files ih =>
    rw [loadAll_cons, List.filterMap_cons, ← ih]
    cases load dir file.1 (some file.2) <;> rfl

/-- The log and the caller are told of the skipped files by turns. -/
theorem events_loadAll (dir : Bytes) (files : Directory) (handlers : Nat) :
    (loadAll dir files).events = (loadAll dir files).records.flatMap (Report.notes handlers) := by
  induction files with
  | nil => rfl
  | cons file files ih =>
    rw [loadAll_cons]
    cases load dir file.1 (some file.2) with
    | ok h =>
      dsimp only
      rw [Told.events_bind, Told.events_pure, List.append_nil, Noted.records_bind,
        Noted.records_pure, List.append_nil, ih]
    | error e =>
      dsimp only
      rw [Told.events_bind, Noted.records_bind, List.flatMap_append, ih]
      rfl

theorem accounted_loadAll (h : ∀ file ∈ files, Directory.Selected file) :
    Accounted dir files (loadAll dir files).value (loadAll dir files).records := by
  induction files with
  | nil => exact .nil
  | cons file files ih =>
    obtain ⟨⟨content, before, format, hitem, -, hname⟩, hfiles⟩ := List.forall_mem_cons.mp h
    obtain ⟨name, item⟩ := file
    cases hitem
    rw [loadAll_cons]
    cases hload : load dir name (some (.file content)) with
    | ok handler =>
      obtain ⟨bytes, text, manifest, rfl, htext, hparse, rfl⟩ := (load_eq_ok_iff hname).mp hload
      dsimp only
      rw [Noted.records_bind, Noted.records_pure, List.append_nil]
      exact .loaded hname htext hparse (ih hfiles)
    | error error =>
      have hunusable := (load_eq_error_iff hname).mp hload
      dsimp only
      rw [Noted.records_bind, Noted.records_tell, FileName.stem_of_promises hname]
      exact .skipped hname hunusable (ih hfiles)

end Handler

end TemplateRouter
