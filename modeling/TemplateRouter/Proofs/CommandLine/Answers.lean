import Mathlib.Data.List.Forall2
import TemplateRouter.CommandLine.Run
import TemplateRouter.Proofs.Loading.Listing
import TemplateRouter.Proofs.Table.Lookup
/-
What the commands say about a directory: the listing and the answers are about the same routes.
-/
namespace TemplateRouter

open Template

theorem Json.text_object_ne_null (members : List (String × Json)) :
    (Json.object members).text ≠ "null" := by
  rw [Json.text, Json.render]
  intro h
  have hchars := congrArg String.toList h
  simp at hchars

theorem Table.value_lookup {α : Type} (t : Table α) (path : String) :
    (t.lookup path).value = t.match? path := by
  rw [lookup, Told.value_bind]
  cases t.match? path <;> rfl

namespace Command

/-- The answer by a declaration whose placeholders have taken some values. -/
def answerBy (s : Served) (path : String) (names values : List (List Char)) : Json :=
  .object [("path", .string path), ("handler", .string s.handler), ("pattern", .string s.path),
    ("params", .object ((RouteMatch.paramsOf (names.map String.ofList)
      (values.map fun v => some (String.ofList v))).map fun (name, v) => (name, .string v))),
    ("methods", s.methods)]

/-- The line that a listing gives for a path. It is `null` if no template covers the path, and else
it tells the first one that does, with its greedy reading. -/
structure Answers (declared : List Served) (path line : String) : Prop where
  null_iff : line = "null" ↔ ∀ s ∈ declared, ¬ Covers s.path path
  first : line ≠ "null" → ∃ before s after ts vs, declared = before ++ s :: after ∧
    (∀ b ∈ before, ¬ Covers b.path path) ∧ Cut s.path.toList ts ∧ Greedy ts path.toList vs ∧
    line = (answerBy s path (names ts) vs).text

/-- The paths a command looks up: its own, or else those of its input. -/
def asked (paths : List String) (input : Bytes) : List String :=
  if paths.isEmpty then (pathsOf (Text.splitOn 10 input)).1 else paths

theorem value_answerAll (t : Table Served) (paths : List String) :
    (answerAll t paths).value = paths.map fun path => (answer t path).value := by
  induction paths with
  | nil => rfl
  | cons path rest ih =>
    rw [List.map_cons, ← ih]
    rfl

theorem lines_lookUp (s : Surroundings) (t : Table Served) (handlers : Option String)
    (watch : Bool) (paths : List String) :
    ((lookUp handlers watch paths).serve s t).value.lines =
      (asked paths s.input).map fun path => answerLine (answer t path).value := by
  cases paths with
  | nil =>
    rw [serve, Told.value_bind, value_answerAll]
    exact List.map_map
  | cons path rest =>
    rw [serve, Told.value_bind, value_answerAll]
    · exact List.map_map
    · simp

theorem answerLine_none {t : Table Served} {path : String} (h : t.match? path = none) :
    answerLine (answer t path).value = "null" := by
  rw [answer, Told.value_bind, Table.value_lookup, h]
  rfl

theorem answerLine_some {t : Table Served} {path : String} {m : RouteMatch Served}
    (h : t.match? path = some m) :
    answerLine (answer t path).value = (matchJson path m).text := by
  rw [answer, Told.value_bind, Table.value_lookup, h]
  rfl

/-- Nothing keeps a command from watching its directory, or it does not watch. -/
def Starts (c : Command) (s : Surroundings) : Prop :=
  let settings := Settings.ofEnvironment s.environment
  c.watches settings = true → s.unwatched (c.directory settings) = none

section Engine

variable [Regex.Engine]

/-- How a command goes on that has its table: it serves, unless it is to watch a directory that
cannot be watched. -/
structure Proceeds (c : Command) (s : Surroundings) (t : Table Served) : Prop where
  serves : c.Starts s → (c.run s).value = (c.serve s t).value
  stopped : ∀ causes, c.watches (.ofEnvironment s.environment) = true →
    s.unwatched (c.directory (.ofEnvironment s.environment)) = some causes →
    (c.run s).value =
      ⟨false, [], watchFailure (c.directory (.ofEnvironment s.environment)) causes⟩

def load (c : Command) (s : Surroundings) : Traced (Except LoadError (Table Served)) :=
  let settings := Settings.ofEnvironment s.environment
  (loadTable (c.directory settings) (s.list (c.directory settings)) settings.sizeLimit).logged

theorem proceeds {c : Command} {s : Surroundings} {t : Table Served}
    (h : (c.load s).value = .ok t) : c.Proceeds s t := by
  rw [load] at h
  constructor
  · intro hstarts
    rw [run, Told.value_bind, h]
    dsimp only
    split
    · next hwatches =>
      rw [hstarts hwatches]
      rfl
    · rfl
  · intro causes hwatches hcauses
    rw [run, Told.value_bind, h]
    dsimp only
    rw [hwatches, if_pos rfl, hcauses]
    rfl

variable {dir : Bytes} {listing : Listing} {d : Directory} {limit : Nat} {t : Table Served}

theorem answers_of_loadTable (h : (loadTable dir (.ok d) limit).value = .ok t) (path : String) :
    Answers d.declared path (answerLine (answer t path).value) := by
  obtain ⟨hstep, hvalues, hpattern⟩ := routes_of_loadTable h
  have htemplates : ∀ r ∈ t.routes, ∃ template, r.pattern = .template template :=
    fun r hr => ⟨_, hpattern r hr⟩
  have htext : ∀ r ∈ t.routes, r.pattern.text = r.value.path := by
    intro r hr
    rw [hpattern r hr]
    rfl
  rw [← hvalues]
  cases hm : t.match? path with
  | none =>
    have hnone := (hstep.match?_eq_none_iff htemplates).mp hm
    rw [answerLine_none hm]
    refine ⟨⟨fun _ => ?_, fun _ => rfl⟩, fun hline => absurd rfl hline⟩
    rw [List.forall_mem_map]
    intro r hr
    rw [← htext r hr]
    exact hnone r hr
  | some m =>
    obtain ⟨before, after, hroutes, hbefore, hcovers, hby⟩ := hstep.match?_eq_some htemplates hm
    have hmem : m.route ∈ t.routes := by simp [hroutes]
    rw [answerLine_some hm]
    refine ⟨⟨fun hline => absurd hline (Json.text_object_ne_null _), fun hnone => ?_⟩, fun _ => ?_⟩
    · rw [htext m.route hmem] at hcovers
      exact absurd hcovers (hnone m.route.value (List.mem_map_of_mem hmem))
    · obtain ⟨ts, vs, hcut, hgreedy, heq⟩ := RouteMatch.greedy_of_byTemplate hby
      rw [htext m.route hmem] at hcut
      refine ⟨before.map (·.value), m.route.value, after.map (·.value), ts, vs, ?_, ?_, hcut,
        hgreedy, ?_⟩
      · rw [hroutes, List.map_append, List.map_cons]
      · rw [List.forall_mem_map]
        intro b hb
        rw [← htext b (by simp [hroutes, hb])]
        exact hbefore b hb
      · rw [matchJson, answerBy, heq]

theorem value_serve_routes (h : (loadTable dir (.ok d) limit).value = .ok t) (s : Surroundings)
    (handlers : Option String) : ((routes handlers true).serve s t).value =
      ⟨true, d.declared.map fun r => r.json.text, []⟩ := by
  rw [← (routes_of_loadTable h).2.1, List.map_map]
  rfl

/-- The two commands describe the same routes: one lists the declarations of the directory in
order, and the other gives for each path the line that this listing gives. -/
theorem commands_describe_one_router (h : (loadTable dir listing limit).value = .ok t) :
    ∃ d declared, listing = .ok d ∧ d.Declares declared ∧
      (∀ s handlers, ((routes handlers true).serve s t).value =
        ⟨true, declared.map fun r => r.json.text, []⟩) ∧
      (∀ s handlers watch paths, List.Forall₂ (Answers declared) (asked paths s.input)
        ((lookUp handlers watch paths).serve s t).value.lines) ∧
      ∀ (c : Command) (s : Surroundings), c.directory (.ofEnvironment s.environment) = dir →
        s.list dir = listing → (Settings.ofEnvironment s.environment).sizeLimit = limit →
        c.Proceeds s t := by
  obtain ⟨d, rfl, -⟩ := loadTable_eq_ok_iff.mp h
  refine ⟨d, d.declared, rfl, d.declares_declared, value_serve_routes h, ?_, ?_⟩
  · intro s handlers watch paths
    rw [lines_lookUp, List.forall₂_map_right_iff, List.forall₂_same]
    exact fun path _ => answers_of_loadTable h path
  · rintro c s rfl hlist rfl
    rw [← hlist] at h
    exact proceeds h

end Engine

theorem mergeSort_swap {β : Type} {le : β → β → Bool} {a b : β} (h : le b a = false) :
    [b, a].mergeSort le = [a, b] := by
  simp [List.mergeSort, h]

/-- With two files that are listed against the order of their names, and a path that both have
templates for. -/
theorem commands_describe_one_router_two_files :
    ∃ (d : Directory) (t : Table Served),
      d.map (fun file => Text.Utf8.decode? file.1) = [some "b.toml", some "a.toml"] ∧
      (loadTable [] (.ok d) 4096).value = .ok t ∧ ∃ declared, d.Declares declared ∧
      (∀ s, ((routes none true).serve s t).value = ⟨true,
        ["\x7b\"handler\":\"a\",\"path\":\"/{a}\",\"methods\":null\x7d",
          "\x7b\"handler\":\"b\",\"path\":\"/x\",\"methods\":null\x7d"], []⟩) ∧
      ∀ s watch, List.Forall₂ (Answers declared) ["/x"]
        ((lookUp none watch ["/x"]).serve s t).value.lines := by
  let a : FileName × Item := (Text.Utf8.encode "a.toml",
    .file (.bytes (Text.Utf8.encode "[[routes]]\npath = '/{a}'\n")))
  let b : FileName × Item := (Text.Utf8.encode "b.toml",
    .file (.bytes (Text.Utf8.encode "[[routes]]\npath = '/x'\n")))
  have hfilter : [b, a].filter Directory.isManifest = [b, a] := by decide +kernel
  have hfiles : Directory.manifests [b, a] = [a, b] := by
    rw [Directory.manifests, hfilter]
    exact mergeSort_swap (by decide +kernel)
  have hloads : (Table.ofRoutes (share 0 (Directory.routes [] [b, a])) 4096).value.isOk := by
    rw [Directory.routes_eq, Directory.declared, hfiles]
    decide +kernel
  cases htable : (Table.ofRoutes (share 0 (Directory.routes [] [b, a])) 4096).value with
  | error e =>
    rw [htable] at hloads
    cases hloads
  | ok t =>
    have h := loadTable_eq_ok_iff.mpr ⟨[b, a], rfl, htable⟩
    obtain ⟨d, declared, hd, hdeclares, -, hanswers, -⟩ := commands_describe_one_router h
    obtain rfl : [b, a] = d := Except.ok.inj hd
    refine ⟨[b, a], t, by decide +kernel, h, declared, hdeclares, fun s => ?_,
      fun s watch => hanswers s none watch ["/x"]⟩
    rw [value_serve_routes h, Directory.declared, hfiles]
    decide +kernel

end Command

end TemplateRouter
