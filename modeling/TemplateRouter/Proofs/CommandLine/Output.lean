import TemplateRouter.Proofs.CommandLine.Input
import TemplateRouter.Proofs.CommandLine.Parameters
import TemplateRouter.Proofs.Json.Line
import TemplateRouter.Proofs.Loading.Failure
import TemplateRouter.Proofs.Manifest.Methods
import TemplateRouter.Proofs.Text.Lines
/-
What the commands write is as many lines as there are answers, and each line tells all of its
answer: it is one JSON value, from which names, paths, parameters and methods are read back.
-/
namespace TemplateRouter

open Json (Source)

namespace Json

/-- A line that is one object with certain members, in their order. A member without floats is read
back as it is; if all are, and none lies too deep, so is the object, by ascending key. -/
structure Tells (members : List (String × Json)) (line : String) : Prop where
  parses : ∃ fields, Source.parse? line.toList = some (.object fields) ∧
    List.Forall₂ (fun field member => Source.text? field.1 = some member.1.toList ∧
      field.2 = member.2.source ∧ (member.2.isFloatless → ∀ depth, member.2.nesting ≤ depth →
        field.2.value depth = some member.2)) fields members
  value_eq : (∀ m ∈ members, m.2.isFloatless ∧ m.2.nesting < Source.maxDepth) →
    parse? line.toList = some (.ofMembers members)

theorem tells_text {members : List (String × Json)} (h : ∀ m ∈ members, m.2.Proper) :
    Tells members (object members).text := by
  refine ⟨⟨memberSources members, ?_, ?_⟩, fun hall => ?_⟩
  · rw [text, String.toList_ofList, parse?_render]
    rfl
  · induction members with
    | nil => exact .nil
    | cons m members ih =>
      obtain ⟨hm, hmembers⟩ := List.forall_mem_cons.mp h
      refine .cons ⟨text?_pieces m.1, rfl, ?_⟩ (ih hmembers)
      exact fun hfloat depth hdepth => value_source m.2 hm hfloat hdepth
  · have hfloat := membersFloatless_iff.mpr fun m hm => (hall m hm).1
    refine parse?_object (properMembers_iff.mpr h) hfloat (Nat.lt_succ_of_le ?_)
    exact nestingOfMembers_le_iff.mpr fun m hm => Nat.le_of_lt_succ (hall m hm).2

theorem last_counts {depth : Nat} {members : List (List StringPiece × Source)} {v : Json}
    (h : (Source.object members).value (depth + 1) = some v) :
    ∃ ms dict, Source.memberValues depth members = some ms ∧ v = .object dict ∧
      ∀ key, Dictionary.get? dict key = Dictionary.last? ms key := by
  rw [Source.value] at h
  obtain ⟨ms, hms, rfl⟩ := Option.map_eq_some_iff.mp h
  exact ⟨ms, _, hms, rfl, Dictionary.get?_ofPairs ms⟩

end Json

theorem toList_written (lines : List String) :
    (written lines).toList = List.intercalate ['\n'] (lines.map String.toList ++ [[]]) := by
  induction lines with
  | nil => rfl
  | cons line lines ih =>
    rw [written] at ih
    rw [written, List.map_cons, String.join_cons, String.toList_append, ih, String.toList_append,
      List.map_cons, List.cons_append, List.intercalate_cons_of_ne_nil]
    · rfl
    · exact List.append_ne_nil_of_right_ne_nil _ (List.cons_ne_nil _ _)

theorem splits_written {lines : List String} (h : ∀ line ∈ lines, '\n' ∉ line.toList) :
    Text.Splits '\n' (written lines).toList (lines.map String.toList ++ [[]]) where
  ne_nil := List.append_ne_nil_of_right_ne_nil _ (List.cons_ne_nil _ _)
  no_sep := by
    refine List.forall_mem_append.mpr ⟨?_, List.forall_mem_singleton.mpr List.not_mem_nil⟩
    exact List.forall_mem_map.mpr h
  joined := (toList_written lines).symm

section Declared

variable {d : Directory} {name : FileName} {before bytes : Bytes}
  {format : Manifest.Format} {text : String} {m : Manifest} {s : Served}

theorem declaredIn_of_parse (h : name.Promises before format)
    (htext : Text.Utf8.decode? bytes = some text)
    (hm : Manifest.parse? format text.toList = some m) :
    Directory.declaredIn (name, .file (.bytes bytes)) =
      m.map fun declaration => { declaration with
        handler := (Text.Utf8.decode? before).getD "" } := by
  have hload : Handler.load [] name (some (.file (.bytes bytes))) =
      .ok ⟨(Text.Utf8.decode? before).getD "", m⟩ :=
    (Handler.load_eq_ok_iff h).mpr ⟨bytes, text, m, rfl, htext, hm, rfl⟩
  rw [Directory.declaredIn_eq [], hload]
  rfl

theorem proper_of_mem_declared (h : s ∈ d.declared) : s.methods.Proper := by
  obtain ⟨⟨name, item⟩, -, hselected, handler, hload, hs⟩ := (Directory.mem_declared_iff []).mp h
  obtain ⟨content, before, format, rfl, -, hname⟩ := hselected
  obtain ⟨_, text, m, -, -, hm, rfl⟩ := (Handler.load_eq_ok_iff hname).mp hload
  obtain ⟨declaration, hmem, rfl⟩ := List.mem_map.mp hs
  exact Manifest.proper_of_parse? hm declaration hmem

theorem proper_members (h : s.methods.Proper) : ∀ m ∈ s.members, m.2.Proper := by
  simp only [Served.members, List.forall_mem_cons]
  exact ⟨trivial, trivial, h, List.forall_mem_nil _⟩

end Declared

/-- A declaration in a JSON source, next to the line that lists it: without floats, what the line is
read as has the methods that were read from the source. -/
def Relays (item : Source) (s : Served) : Prop :=
  ∃ methods v, Manifest.OfJson.Declares item s.path methods ∧ Manifest.OfJson.Means methods v ∧
    (v.isFloatless → ∃ dict, Json.parse? s.json.text.toList = some (.object dict) ∧
      Dictionary.get? dict "handler" = some (.string s.handler) ∧
      Dictionary.get? dict "path" = some (.string s.path) ∧
      Dictionary.get? dict "methods" = some v)

theorem relays_of_readFrom {item : Source} {declaration : Declaration} (handler : String)
    (h : Manifest.OfJson.ReadFrom item declaration) :
    Relays item { declaration with handler } := by
  obtain ⟨methods, hdeclares, hmeans⟩ := h
  have hbounded := Manifest.OfJson.bounded_of_means hmeans
  refine ⟨methods, declaration.methods, hdeclares, hmeans, fun hfloat => ?_⟩
  let s : Served := { declaration with handler }
  have hmembers := proper_members (show s.methods.Proper from hbounded.proper)
  have hzero : 0 < Source.maxDepth := by decide
  have hall : ∀ m ∈ s.members, m.2.isFloatless ∧ m.2.nesting < Source.maxDepth := by
    simp only [Served.members, List.forall_mem_cons]
    exact ⟨⟨rfl, hzero⟩, ⟨rfl, hzero⟩,
      ⟨hfloat, Nat.lt_of_le_of_lt hbounded.nesting_le (by decide)⟩, List.forall_mem_nil _⟩
  refine ⟨_, (Json.tells_text hmembers).value_eq hall, ?_, ?_, ?_⟩
  all_goals rw [Dictionary.get?_ofPairs]
  all_goals simp [s, Served.members, Dictionary.last?]

namespace Command

/-- The line for a path: null if nothing matches, and else all of the match. -/
inductive TellsMatch (t : Table Served) (path line : String) : Prop where
  | missed :
      t.match? path = none →
      line = "null" →
      Json.parse? line.toList = some .null →
      TellsMatch t path line
  | matched (m : RouteMatch Served) :
      t.match? path = some m →
      Json.Tells [("path", .string path), ("handler", .string m.route.value.handler),
        ("pattern", .string m.route.value.path),
        ("params", .object (m.params.map fun (name, v) => (name, .string v))),
        ("methods", m.route.value.methods)] line →
      TellsMatch t path line

theorem proper_params {params : Dictionary String} (h : Dictionary.Sorted params) :
    (Json.object (params.map fun (name, v) => (name, .string v))).Proper := by
  refine ⟨List.pairwise_map.mpr (h.imp fun hlt => hlt), Json.properMembers_iff.mpr ?_⟩
  rw [List.forall_mem_map]
  exact fun _ _ => trivial

variable {dir : Bytes} {listing : Listing} {d : Directory} {limit : Nat} {t : Table Served}

/-- Lines without a line break in them, which are all that is written of them. -/
def Framed (lines : List String) : Prop :=
  Text.Splits '\n' (written lines).toList (lines.map String.toList ++ [[]])

/-- What is written of a directory and of paths loses nothing. There is one line for each route and
for each path, and each line is one JSON value that tells all of its answer. -/
structure LosesNothing (declared : List Served) (t : Table Served) : Prop where
  size_eq : declared.length = t.size
  listed : ∀ s handlers, let lines := ((routes handlers true).serve s t).value.lines
    Framed lines ∧ List.Forall₂ (fun (r : Served) line =>
      line = r.json.text ∧ Json.Tells r.members line) declared lines
  matched : ∀ s handlers watch paths,
    let lines := ((lookUp handlers watch paths).serve s t).value.lines
    Framed lines ∧ List.Forall₂ (TellsMatch t) (asked paths s.input) lines
  relayed : ∀ (name : FileName) (before bytes : Bytes) (text : String) (m : Manifest),
    name.Promises before .json →
    Text.Utf8.decode? bytes = some text →
    Manifest.parse? .json text.toList = some m →
    ∃ source items, Source.parse? text.toList = some source ∧
      Manifest.OfJson.HasRoutes source items ∧
      List.Forall₂ Relays items (Directory.declaredIn (name, .file (.bytes bytes)))
  shallow : ∀ (name : FileName) (before bytes : Bytes) (format : Manifest.Format) (text : String)
    (m : Manifest), format ≠ .toml →
    name.Promises before format →
    Text.Utf8.decode? bytes = some text →
    Manifest.parse? format text.toList = some m →
    ∀ r ∈ Directory.declaredIn (name, .file (.bytes bytes)), r.methods.nesting < Source.maxDepth
  last_counts : ∀ depth members v, (Source.object members).value (depth + 1) = some v →
    ∃ ms dict, Source.memberValues depth members = some ms ∧ v = .object dict ∧
      ∀ key, Dictionary.get? dict key = Dictionary.last? ms key

section Engine

variable [Regex.Engine]

theorem tellsMatch_of_loadTable (h : (loadTable dir (.ok d) limit).value = .ok t) (path : String) :
    TellsMatch t path (answerLine (answer t path).value) := by
  cases hm : t.match? path with
  | none =>
    rw [answerLine_none hm]
    exact .missed hm rfl rfl
  | some m =>
    rw [answerLine_some hm]
    refine .matched m hm (Json.tells_text ?_)
    obtain ⟨hstep, hvalues, -⟩ := routes_of_loadTable h
    obtain ⟨before, after, hroutes, -⟩ := hstep.match?_eq_some (templates_of_loadTable h) hm
    have hdeclared : m.route.value ∈ d.declared := by
      rw [← hvalues, hroutes]
      simp
    obtain ⟨⟨e, c⟩, -, rfl⟩ := Option.map_eq_some_iff.mp hm
    simp only [List.forall_mem_cons]
    exact ⟨trivial, trivial, trivial, proper_params (RouteMatch.sorted_ofCaptured e c),
      proper_of_mem_declared hdeclared, List.forall_mem_nil _⟩

theorem losesNothing (h : (loadTable dir (.ok d) limit).value = .ok t) :
    LosesNothing d.declared t where
  size_eq := (size_of_loadTable h).symm
  listed s handlers := by
    rw [value_serve_routes h]
    refine ⟨splits_written ?_, ?_⟩
    · rw [List.forall_mem_map]
      exact fun r _ => Json.newline_not_mem_text r.json
    · rw [List.forall₂_map_right_iff, List.forall₂_same]
      exact fun r hr => ⟨rfl, Json.tells_text (proper_members (proper_of_mem_declared hr))⟩
  matched s handlers watch paths := by
    rw [lines_lookUp]
    refine ⟨splits_written ?_, ?_⟩
    · rw [List.forall_mem_map]
      exact fun path _ => newline_not_mem_answerLine _
    · rw [List.forall₂_map_right_iff, List.forall₂_same]
      exact fun path _ => tellsMatch_of_loadTable h path
  relayed name before bytes text m hname htext hm := by
    obtain ⟨source, items, hsource, hroutes, hitems⟩ := Manifest.readFrom_of_ofJson? hm
    refine ⟨source, items, hsource, hroutes, ?_⟩
    rw [declaredIn_of_parse hname htext hm, List.forall₂_map_right_iff]
    exact hitems.imp fun _ _ hread => relays_of_readFrom _ hread
  shallow name before bytes format text m hformat hname htext hm := by
    rw [declaredIn_of_parse hname htext hm, List.forall_mem_map]
    exact Manifest.nesting_of_parse? hformat hm
  last_counts _ _ _ hv := Json.last_counts hv

/-- The output of both commands is in lines, and each line is one JSON value from which everything
is read back that was loaded and matched. -/
theorem output_loses_nothing (h : (loadTable dir listing limit).value = .ok t) :
    ∃ d declared, listing = .ok d ∧ d.Declares declared ∧
      declared = t.routes.map (·.value) ∧ LosesNothing declared t ∧
      ∀ (c : Command) (s : Surroundings), c.directory (.ofEnvironment s.environment) = dir →
        s.list dir = listing → (Settings.ofEnvironment s.environment).sizeLimit = limit →
        c.Proceeds s t := by
  obtain ⟨d, rfl, -⟩ := loadTable_eq_ok_iff.mp h
  refine ⟨d, d.declared, rfl, d.declares_declared, (routes_of_loadTable h).2.1.symm,
    losesNothing h, ?_⟩
  rintro c s rfl hlist rfl
  rw [← hlist] at h
  exact proceeds h

end Engine

/-- With a quote and a line break in a name, a key that is written twice, and an escaped control
character. -/
theorem output_loses_nothing_escapes :
    ∃ (d : Directory) (t : Table Served), (loadTable [] (.ok d) 4096).value = .ok t ∧
      d.declared.map (fun r => r.json.text) =
        ["\x7b\"handler\":\"\\\"\\n\",\"path\":\"/x\",\"methods\":\x7b\"k\":\"\\u0001\"\x7d\x7d"] ∧
      LosesNothing d.declared t := by
  let d : Directory := [(Text.Utf8.encode "\"\n.json",
    .file (.bytes (Text.Utf8.encode "[[[\"/x\",\x7b\"k\":0,\"k\":\"\\u0001\"\x7d]]]")))]
  have hfiles : d.manifests = d := by
    rw [Directory.manifests_of_listed (List.pairwise_singleton _ _)]
    decide +kernel
  obtain ⟨t, h⟩ : ∃ t, (loadTable [] (.ok d) 4096).value = .ok t :=
    exists_loadTable_of_listed (List.pairwise_singleton _ _) (by decide +kernel)
  obtain ⟨d', declared, hd, -, hdeclared, hloses, -⟩ := output_loses_nothing h
  obtain rfl : d = d' := Except.ok.inj hd
  rw [hdeclared, (routes_of_loadTable h).2.1] at hloses
  refine ⟨d, t, h, ?_, hloses⟩
  rw [Directory.declared, hfiles]
  decide +kernel

end Command

end TemplateRouter
