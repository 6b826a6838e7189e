import TemplateRouter.Proofs.CommandLine.Events
import TemplateRouter.Proofs.Json.Line
import TemplateRouter.Proofs.Loading.Reload
import TemplateRouter.Proofs.Text.Decoding
import TemplateRouter.Proofs.Text.Lines
/-
Paths that are read from the input are answered as if they were arguments. A line that is no text
ends the reading, but what stands before it has been answered.
-/
namespace TemplateRouter.Command

section Reading

/-- The paths that texts hold: what is left of each without white space at its ends, if anything. -/
inductive HoldPaths : List String → List String → Prop where
  | nil : HoldPaths [] []
  | blank {text : String} {texts paths : List String} :
      Text.Trims text.toList [] → HoldPaths texts paths → HoldPaths (text :: texts) paths
  | path {text path : String} {texts paths : List String} :
      Text.Trims text.toList path.toList → path ≠ "" → HoldPaths texts paths →
      HoldPaths (text :: texts) (path :: paths)

/-- The paths that are read from an input, and whether all of it is read: the first line that is no
text ends the reading. -/
inductive Heard (input : Bytes) : List String → Bool → Prop where
  | all {texts paths : List String} :
      Text.Splits 10 input (texts.map Text.Utf8.encode) → HoldPaths texts paths →
      Heard input paths true
  | broken {texts paths : List String} {bad : Bytes} {after : List Bytes} :
      Text.Splits 10 input (texts.map Text.Utf8.encode ++ bad :: after) →
      (∀ text, Text.Utf8.encode text ≠ bad) → HoldPaths texts paths → Heard input paths false

variable {texts paths : List String} {input : Bytes} {complete : Bool}

theorem exists_holdPaths (texts : List String) : ∃ paths, HoldPaths texts paths := by
  induction texts with
  | nil => exact ⟨[], .nil⟩
  | cons text texts ih =>
    obtain ⟨paths, h⟩ := ih
    have htrims := Text.trims_trim text.toList
    by_cases hblank : Text.trim text.toList = []
    · rw [hblank] at htrims
      exact ⟨paths, .blank htrims h⟩
    · refine ⟨String.ofList (Text.trim text.toList) :: paths, .path ?_ ?_ h⟩
      · rw [String.toList_ofList]
        exact htrims
      · intro hempty
        exact hblank (by simpa using congrArg String.toList hempty)

theorem exists_texts (lines : List Bytes) :
    (∃ texts : List String, lines = texts.map Text.Utf8.encode) ∨
      ∃ (texts : List String) (bad : Bytes) (after : List Bytes),
        lines = texts.map Text.Utf8.encode ++ bad :: after ∧
          ∀ text, Text.Utf8.encode text ≠ bad := by
  induction lines with
  | nil => exact .inl ⟨[], rfl⟩
  | cons line lines ih =>
    by_cases hline : ∃ text, Text.Utf8.encode text = line
    · obtain ⟨text, rfl⟩ := hline
      rcases ih with ⟨texts, rfl⟩ | ⟨texts, bad, after, rfl, hbad⟩
      · exact .inl ⟨text :: texts, rfl⟩
      · exact .inr ⟨text :: texts, bad, after, rfl, hbad⟩
    · exact .inr ⟨[], line, lines, rfl, not_exists.mp hline⟩

theorem exists_heard (input : Bytes) : ∃ paths complete, Heard input paths complete := by
  have hsplits : Text.Splits 10 input (Text.splitOn 10 input) := Text.splits_iff.mpr rfl
  rcases exists_texts (Text.splitOn 10 input) with
    ⟨texts, htexts⟩ | ⟨texts, bad, after, htexts, hbad⟩
  · obtain ⟨paths, hpaths⟩ := exists_holdPaths texts
    exact ⟨paths, true, .all (htexts ▸ hsplits) hpaths⟩
  · obtain ⟨paths, hpaths⟩ := exists_holdPaths texts
    exact ⟨paths, false, .broken (htexts ▸ hsplits) hbad hpaths⟩

theorem heard_nil : Heard [] [] true := by
  have hblank : Text.Trims "".toList [] := Text.trims_iff.mpr rfl
  have hline : Text.Splits 10 [] ([""].map Text.Utf8.encode) :=
    Text.splits_iff.mpr (by decide +kernel)
  exact .all hline (.blank hblank .nil)

theorem pathOf_encode {text : String} {t : List Char} (h : Text.Trims text.toList t) :
    pathOf (Text.Utf8.encode text) = .ok (if t = [] then none else some (String.ofList t)) := by
  rw [pathOf, Text.Utf8.decode?_encode]
  dsimp only
  rw [Text.trims_iff.mp h]
  simp only [List.isEmpty_iff]

/-- Lines that are texts are read in turn, whatever stands after them. -/
theorem pathsOf_append (h : HoldPaths texts paths) (rest : List Bytes) :
    pathsOf (texts.map Text.Utf8.encode ++ rest) =
      (paths ++ (pathsOf rest).1, (pathsOf rest).2) := by
  induction h with
  | nil => rfl
  | blank htrims _ ih =>
    rw [List.map_cons, List.cons_append, pathsOf, pathOf_encode htrims, if_pos rfl, ih]
  | path htrims hpath _ ih =>
    have hne : ¬ _ = ([] : List Char) := fun hnil => hpath (String.toList_eq_nil_iff.mp hnil)
    rw [List.map_cons, List.cons_append, pathsOf, pathOf_encode htrims, if_neg hne, ih,
      String.ofList_toList]
    rfl

theorem pathsOf_of_heard (h : Heard input paths complete) :
    pathsOf (Text.splitOn 10 input) = (paths, if complete then none else some .notText) := by
  cases h with
  | all hsplits hpaths =>
    have happend := pathsOf_append hpaths []
    rw [List.append_nil] at happend
    rw [Text.splits_iff.mp hsplits, happend]
    exact congrArg (·, none) (List.append_nil paths)
  | @broken texts _ bad after hsplits hbad hpaths =>
    have hstop : pathsOf (bad :: after) = ([], some .notText) := by
      rw [pathsOf, pathOf, Text.Utf8.decode?_eq_none_iff.mpr hbad]
    rw [Text.splits_iff.mp hsplits, pathsOf_append hpaths, hstop]
    exact congrArg (·, some FileError.notText) (List.append_nil paths)

end Reading

section Answering

variable {t : Table Served} {paths : List String}

theorem answerLine_eq_null_iff {path : String} :
    answerLine (answer t path).value = "null" ↔ (answer t path).value = none := by
  cases hm : t.match? path with
  | none =>
    refine iff_of_true (answerLine_none hm) ?_
    rw [answer, Told.value_bind, Table.value_lookup, hm]
    rfl
  | some m =>
    refine iff_of_false ?_ ?_
    · rw [answerLine_some hm]
      exact Json.text_object_ne_null _
    · rw [answer, Told.value_bind, Table.value_lookup, hm]
      exact Option.some_ne_none _

theorem newline_not_mem_answerLine (a : Option Json) : '\n' ∉ (answerLine a).toList := by
  cases a with
  | none => decide +kernel
  | some v => exact v.newline_not_mem_text

/-- What is made of answers to paths: a line for each, and a status that tells whether one of them
is `null`. -/
structure LookedUp (declared : List Served) (paths : List String) (o : Outcome) : Prop where
  answers : List.Forall₂ (Answers declared) paths o.lines
  one_line : ∀ line ∈ o.lines, '\n' ∉ line.toList
  status_iff : o.status = 0 ↔ "null" ∉ o.lines
  status_le : o.status ≤ 1
  failure_eq : o.failure = []

theorem value_serve_paths (s : Surroundings) (handlers : Option String) (watch : Bool)
    (h : paths ≠ []) : ((lookUp handlers watch paths).serve s t).value =
      answered (paths.map fun path => (answer t path).value) none := by
  cases paths with
  | nil => exact absurd rfl h
  | cons path rest =>
    rw [serve, Told.value_bind, value_answerAll]
    · rfl
    · simp

theorem value_serve_input {s : Surroundings} {complete : Bool} (h : Heard s.input paths complete)
    (handlers : Option String) (watch : Bool) : ((lookUp handlers watch []).serve s t).value =
      answered (paths.map fun path => (answer t path).value)
        (if complete then none else some .notText) := by
  rw [serve, pathsOf_of_heard h, Told.value_bind, value_answerAll]
  rfl

theorem status_answered (answers : List (Option Json)) (e : Option FileError) :
    (answered answers e).status = if answers.all Option.isSome && e.isNone then 0 else 1 := rfl

variable {dir : Bytes} {listing : Listing} {d : Directory} {limit : Nat}

/-- Surroundings in which a command that looks paths up finds a listing of a directory. -/
structure Finds (s : Surroundings) (handlers : Option String) (dir : Bytes) (listing : Listing)
    (limit : Nat) : Prop where
  directory_eq : (handlers.map Text.Utf8.encode).getD
    (Settings.ofEnvironment s.environment).handlersDir = dir
  list_eq : s.list dir = listing
  sizeLimit_eq : (Settings.ofEnvironment s.environment).sizeLimit = limit

section Engine

variable [Regex.Engine]

theorem lookedUp_answered (h : (loadTable dir (.ok d) limit).value = .ok t) (paths : List String) :
    LookedUp d.declared paths
      (answered (paths.map fun path => (answer t path).value) none) := by
  refine ⟨?_, ?_, ?_, ?_, rfl⟩
  · rw [answered, List.map_map, List.forall₂_map_right_iff, List.forall₂_same]
    exact fun path _ => answers_of_loadTable h path
  · rw [answered, List.forall_mem_map]
    exact fun a _ => newline_not_mem_answerLine a
  · have hnull : "null" ∉ (answered (paths.map fun path => (answer t path).value) none).lines ↔
        ∀ path ∈ paths, (answer t path).value ≠ none := by
      rw [answered, List.map_map, List.mem_map, not_exists]
      refine forall_congr' fun path => ?_
      rw [not_and]
      exact imp_congr_right fun _ => not_congr answerLine_eq_null_iff
    rw [hnull, status_answered]
    simp [List.all_eq_true, Option.isSome_iff_ne_none]
  · rw [status_answered]
    split <;> simp

section Run

variable {s : Surroundings} {handlers : Option String} (hfinds : Finds s handlers dir listing limit)
  (h : (loadTable dir listing limit).value = .ok t)

include hfinds h

theorem value_load (watch : Bool) (paths : List String) :
    ((lookUp handlers watch paths).load s).value = .ok t := by
  obtain ⟨rfl, rfl, rfl⟩ := hfinds
  exact h

theorem value_run_paths (watch : Bool) {paths : List String} (hpaths : paths ≠ []) :
    ((lookUp handlers watch paths).run s).value =
      answered (paths.map fun path => (answer t path).value) none := by
  have hstarts : (lookUp handlers watch paths).Starts s := by
    intro hwatches
    obtain ⟨_, _, heq⟩ := lookUp_of_watches hwatches
    exact absurd (Command.lookUp.inj heq).2.2 hpaths
  rw [(proceeds (value_load hfinds h watch paths)).serves hstarts,
    value_serve_paths s handlers watch hpaths]

variable {watch : Bool} (hstarts : (lookUp handlers watch []).Starts s)

include hstarts

theorem value_run_input {paths : List String} {complete : Bool}
    (hheard : Heard s.input paths complete) :
    ((lookUp handlers watch []).run s).value =
      answered (paths.map fun path => (answer t path).value)
        (if complete then none else some .notText) := by
  rw [(proceeds (value_load hfinds h watch [])).serves hstarts, value_serve_input hheard]

theorem events_run_input {paths : List String} {complete : Bool}
    (hheard : Heard s.input paths complete) :
    ((lookUp handlers watch []).run s).events = (loadTable dir listing limit).logged.events ++
      ((if (lookUp handlers watch []).watches (.ofEnvironment s.environment) then
        [.watchStarted (Text.Utf8.display dir)] else []) ++ (answerAll t paths).events) := by
  have hserve : ((lookUp handlers watch []).serve s t).events = (answerAll t paths).events := by
    rw [serve, pathsOf_of_heard hheard]
    exact List.append_nil _
  rw [events_run hstarts, value_load hfinds h watch []]
  dsimp only
  rw [hserve]
  obtain ⟨rfl, rfl, rfl⟩ := hfinds
  rfl

end Run

/-- A command that hears paths from its input does with them what one does that has them as
arguments. If it cannot read on it fails, and has answered what it has heard all the same. -/
structure AsArguments (t : Table Served) (s : Surroundings) (handlers : Option String)
    (watch : Bool) (paths : List String) (complete : Bool) : Prop where
  all_heard : complete = true → ∀ watch', ((lookUp handlers watch []).run s).value =
    if paths = [] then ⟨true, [], []⟩ else ((lookUp handlers watch' paths).run s).value
  broken_off : complete = false → ∀ watch',
    ((lookUp handlers watch []).run s).value.lines =
      (if paths = [] then [] else ((lookUp handlers watch' paths).run s).value.lines) ∧
    ((lookUp handlers watch []).run s).value.status = 1 ∧
    ((lookUp handlers watch []).run s).value.failure =
      ["failed to read path from stdin", "stream did not contain valid UTF-8"]
  events_eq : ((lookUp handlers watch []).run s).events =
    ((lookUp handlers watch []).run { s with input := [] }).events ++ (answerAll t paths).events

theorem asArguments {s : Surroundings} {handlers : Option String}
    (hfinds : Finds s handlers dir listing limit)
    (h : (loadTable dir listing limit).value = .ok t) {watch : Bool}
    (hstarts : (lookUp handlers watch []).Starts s) {paths : List String} {complete : Bool}
    (hheard : Heard s.input paths complete) : AsArguments t s handlers watch paths complete := by
  have hinput := value_run_input hfinds h hstarts hheard
  refine ⟨?_, ?_, ?_⟩
  · rintro rfl watch'
    rw [hinput, if_pos rfl]
    split_ifs with hnil
    · rw [hnil]
      rfl
    · rw [value_run_paths hfinds h watch' hnil]
  · rintro rfl watch'
    rw [hinput, if_neg Bool.false_ne_true]
    refine ⟨?_, ?_, rfl⟩
    · split_ifs with hnil
      · rw [hnil]
        rfl
      · rw [value_run_paths hfinds h watch' hnil]
        rfl
    · rw [status_answered, Option.isNone_some, Bool.and_false]
      rfl
  · have hfinds' : Finds { s with input := [] } handlers dir listing limit :=
      ⟨hfinds.directory_eq, hfinds.list_eq, hfinds.sizeLimit_eq⟩
    rw [events_run_input hfinds h hstarts hheard, events_run_input hfinds' h hstarts heard_nil,
      List.append_assoc, List.append_assoc]
    rfl

/-- Where a directory loads, paths among the arguments and paths from the input have the same
answers: a line for each, and a status that tells of the misses. Only a command that is to watch a
directory that cannot be watched reads nothing. -/
theorem input_as_arguments (h : (loadTable dir listing limit).value = .ok t) :
    ∃ d declared, listing = .ok d ∧ d.Declares declared ∧
      ∀ (s : Surroundings) (handlers : Option String), Finds s handlers dir listing limit →
        (∀ watch paths, paths ≠ [] →
          LookedUp declared paths ((lookUp handlers watch paths).run s).value) ∧
        (∃ paths complete, Heard s.input paths complete) ∧
        (∀ watch, (lookUp handlers watch []).Starts s → ∀ paths complete,
          Heard s.input paths complete → AsArguments t s handlers watch paths complete) ∧
        ∀ watch, (lookUp handlers watch []).Proceeds s t := by
  obtain ⟨d, rfl, -⟩ := loadTable_eq_ok_iff.mp h
  refine ⟨d, d.declared, rfl, d.declares_declared, ?_⟩
  intro s handlers hfinds
  refine ⟨?_, exists_heard s.input,
    fun watch hstarts _ _ hheard => asArguments hfinds h hstarts hheard,
    fun watch => proceeds (value_load hfinds h watch [])⟩
  intro watch paths hpaths
  rw [value_run_paths hfinds h watch hpaths]
  exact lookedUp_answered h paths

end Engine

/-- With white space around a path, a blank line, and a line that is no text before the last one. -/
theorem input_as_arguments_broken :
    ∃ (d : Directory) (t : Table Served) (s : Surroundings),
      d.map (fun file => Text.Utf8.decode? file.1) = [some "a.toml"] ∧
      (loadTable [104] (.ok d) 1300).value = .ok t ∧ Finds s (some "h") [104] (.ok d) 1300 ∧
      s.input = Text.Utf8.encode " /x \r\n\n/y/z\n" ++ 255 :: Text.Utf8.encode "\n/w" ∧
      Heard s.input ["/x", "/y/z"] false ∧
      (∀ watch, AsArguments t s (some "h") watch ["/x", "/y/z"] false) ∧
      ∃ declared, d.Declares declared ∧ ∀ watch, LookedUp declared ["/x", "/y/z"]
        ((lookUp (some "h") watch ["/x", "/y/z"]).run s).value := by
  let a : FileName × Item := (Text.Utf8.encode "a.toml",
    .file (.bytes (Text.Utf8.encode "[[routes]]\npath = '/{a}'\n")))
  let s : Surroundings := {
    environment := [("ROUTESWITCH_REGEX_SIZE_LIMIT", Text.Utf8.encode "1300")]
    list := fun dir => if dir = [104] then .ok [a] else .error .missing
    input := Text.Utf8.encode " /x \r\n\n/y/z\n" ++ 255 :: Text.Utf8.encode "\n/w" }
  obtain ⟨t, h⟩ : ∃ t, (loadTable [104] (.ok [a]) 1300).value = .ok t :=
    exists_loadTable_of_listed (by decide +kernel) (by decide +kernel)
  have hfinds : Finds s (some "h") [104] (.ok [a]) 1300 :=
    ⟨by decide +kernel, rfl, by decide +kernel⟩
  have hbad : ∀ text, Text.Utf8.encode text ≠ [255] :=
    Text.Utf8.decode?_eq_none_iff.mp (by decide +kernel)
  have hheard : Heard s.input ["/x", "/y/z"] false := by
    have hsplits : Text.Splits 10 s.input ([" /x \r", "", "/y/z"].map Text.Utf8.encode ++
        [255] :: [Text.Utf8.encode "/w"]) := Text.splits_iff.mpr (by decide +kernel)
    refine .broken hsplits hbad (.path ?_ (by decide) (.blank ?_ (.path ?_ (by decide) .nil)))
    all_goals exact Text.trims_iff.mpr (by decide +kernel)
  obtain ⟨d, declared, hd, hdeclares, hserves⟩ := input_as_arguments h
  rw [Except.ok.injEq] at hd
  subst hd
  obtain ⟨hpaths, -, hinput, -⟩ := hserves s (some "h") hfinds
  exact ⟨[a], t, s, by decide +kernel, h, hfinds, rfl, hheard,
    fun watch => hinput watch (fun _ => rfl) _ _ hheard, declared, hdeclares,
    fun watch => hpaths watch _ (by simp)⟩

end Answering

end TemplateRouter.Command
