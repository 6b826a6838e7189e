import Mathlib.Data.List.Find
import TemplateRouter.Log.Settings
import TemplateRouter.Proofs.CommandLine.Events
import TemplateRouter.Proofs.Json.Reading
/-
What a log shows of a run: under every filter the same events happen, and those are written whose
target, level and fields the filter enables.
-/
namespace TemplateRouter.Log

/-- Whether a directive is about events of a target with certain fields. -/
def Directive.covers (d : Directive) (target : String) (fields : List String) : Bool :=
  (d.target.all fun t => t.isPrefixOf target.toList) &&
    d.fields.all fun name => fields.contains (String.ofList name)

theorem Directive.concerns_eq_covers (d : Directive) (e : Event) :
    d.concerns e = d.covers e.target e.fieldNames := by
  rw [concerns, covers]
  cases d.target <;> rfl

namespace Filter

/-- Whether events of a target and a level with certain fields are shown. The first directive about
them decides. -/
def enables (f : Filter) (target : String) (level : Level) (fields : List String) : Bool :=
  (f.directives.find? fun d => d.covers target fields).any fun d => d.threshold.admits level

theorem shows_eq_enables (f : Filter) (e : Event) :
    f.shows e = f.enables e.target e.level e.fieldNames := by
  rw [shows, enables]
  simp only [Directive.concerns_eq_covers]
  cases f.directives.find? fun d => d.covers e.target e.fieldNames <;> rfl

theorem enables_fieldless {f : Filter} (h : ∀ d ∈ f.directives, d.fields = []) (target : String)
    (level : Level) (fields : List String) :
    f.enables target level fields = f.enables target level [] := by
  have hcovers : ∀ d ∈ f.directives, d.covers target fields = d.covers target [] := by
    intro d hd
    rw [Directive.covers, Directive.covers, h d hd, List.all_nil, List.all_nil]
  rw [enables, enables, List.find?_congr hcovers]

end Filter

section Properties

variable [Regex.Properties]

/-- Reading texts in turn refines a filter by those that are directives and sets the others
apart. -/
inductive Refines : Filter → List (List Char) → Filter → List (List Char) → Prop where
  | nil (f : Filter) : Refines f [] f []
  | added {f g : Filter} {d : Directive} {text : List Char} {texts malformed : List (List Char)} :
      Directive.parse? text = some (some d) →
      Refines (f.add d) texts g malformed →
      Refines f (text :: texts) g malformed
  | idle {f g : Filter} {text : List Char} {texts malformed : List (List Char)} :
      Directive.parse? text = some none →
      Refines f texts g malformed →
      Refines f (text :: texts) g malformed
  | malformed {f g : Filter} {text : List Char} {texts malformed : List (List Char)} :
      Directive.parse? text = none →
      Refines f texts g malformed →
      Refines f (text :: texts) g (text :: malformed)

/-- What a filter starts from: the standard variable if it is set to directives, or else a level. -/
inductive StartsFrom (env : Environment) : Filter → Prop where
  | variable {text : String} {f : Filter} :
      env.text? "RUST_LOG" = some text →
      Filter.parse? text.toList = some f →
      StartsFrom env f
  | level :
      (∀ text, env.text? "RUST_LOG" = some text → Filter.parse? text.toList = none) →
      StartsFrom env (.ofThreshold (some (Settings.ofEnvironment env).threshold))

/-- A filter that an environment asks for, with a line for each malformed directive. -/
def SetUp (env : Environment) (f : Filter) (warnings : List String) : Prop :=
  ∃ base malformed, StartsFrom env base ∧
    Refines base (Settings.ofEnvironment env).directiveTexts f malformed ∧
    warnings = malformed.map fun text =>
      "Warning: Invalid log filter directive: " ++ String.ofList text

/-- What the log of an environment shows of some events. -/
structure Shows (env : Environment) (events : List Event) : Prop where
  setUp : SetUp env ((Settings.ofEnvironment env).filter env) (Settings.ofEnvironment env).warnings
  entries_eq : ∀ format, ((Settings.ofEnvironment env).filter env).entries format events =
    (events.filter fun e => ((Settings.ofEnvironment env).filter env).enables
      e.target e.level e.fieldNames).map format.entry
  fieldless : (∀ d ∈ ((Settings.ofEnvironment env).filter env).directives, d.fields = []) →
    ∀ target level fields, ((Settings.ofEnvironment env).filter env).enables target level fields =
      ((Settings.ofEnvironment env).filter env).enables target level []

namespace Settings

def refine (f : Filter) (text : List Char) : Filter :=
  match Directive.parse? text with
  | some (some d) => f.add d
  | _ => f

theorem refines_foldl (f : Filter) (texts : List (List Char)) :
    Refines f texts (texts.foldl refine f)
      (texts.filter fun text => (Directive.parse? text).isNone) := by
  induction texts generalizing f with
  | nil => exact .nil f
  | cons text texts ih =>
    rw [List.foldl_cons, refine]
    cases hparse : Directive.parse? text with
    | none =>
      rw [List.filter_cons_of_pos (by rw [hparse]; rfl)]
      exact .malformed hparse (ih f)
    | some read =>
      rw [List.filter_cons_of_neg (by rw [hparse]; simp)]
      cases read with
      | none => exact .idle hparse (ih f)
      | some d => exact .added hparse (ih (f.add d))

theorem startsFrom_base (env : Environment) :
    StartsFrom env (((env.text? "RUST_LOG").bind fun text => Filter.parse? text.toList).getD
      (.ofThreshold (some (ofEnvironment env).threshold))) := by
  cases htext : env.text? "RUST_LOG" with
  | none => exact .level (by simp [htext])
  | some text =>
    cases hparse : Filter.parse? text.toList with
    | none =>
      rw [Option.bind_some, hparse]
      refine .level fun text' htext' => ?_
      rw [htext, Option.some.injEq] at htext'
      rw [← htext', hparse]
    | some f =>
      rw [Option.bind_some, hparse]
      exact .variable htext hparse

theorem setUp_ofEnvironment (env : Environment) :
    SetUp env ((ofEnvironment env).filter env) (ofEnvironment env).warnings :=
  ⟨_, _, startsFrom_base env, refines_foldl _ _, rfl⟩

end Settings

theorem shows_ofEnvironment (env : Environment) (events : List Event) : Shows env events where
  setUp := Settings.setUp_ofEnvironment env
  entries_eq format := by
    simp only [Filter.entries, ← Filter.shows_eq_enables]
  fieldless h target level fields := Filter.enables_fieldless h target level fields

end Properties

/-- Environments that give a run the same settings, whatever they say of its log. -/
structure Alike (env env' : Environment) : Prop where
  handlersDir : env.lookup "ROUTESWITCH_HANDLERS_DIR" = env'.lookup "ROUTESWITCH_HANDLERS_DIR"
  hotReload : env.lookup "ROUTESWITCH_HOT_RELOAD" = env'.lookup "ROUTESWITCH_HOT_RELOAD"
  sizeLimit :
    env.lookup "ROUTESWITCH_REGEX_SIZE_LIMIT" = env'.lookup "ROUTESWITCH_REGEX_SIZE_LIMIT"

theorem Alike.settings_eq {env env' : Environment} (h : Alike env env') :
    TemplateRouter.Settings.ofEnvironment env = TemplateRouter.Settings.ofEnvironment env' := by
  simp only [TemplateRouter.Settings.ofEnvironment, Environment.text?, h.handlersDir, h.hotReload,
    h.sizeLimit]

/-- A run tells exactly what happened. Whatever the log is asked to show, the run is the same, and
the log is the part of its events whose target, level and fields the filter enables. -/
theorem log_tells_run [Regex.Engine] (c : Command) (s : Surroundings)
    (h : c.watches (.ofEnvironment s.environment) = false) :
    c.Tells s (c.run s).events ∧ ∀ env, Alike env s.environment →
      c.run { s with environment := env } = c.run s ∧ Shows env (c.run s).events := by
  refine ⟨Command.tells_run h, fun env halike => ⟨?_, shows_ofEnvironment env _⟩⟩
  exact Command.run_congr c s halike.settings_eq

def oneRoute : Directory :=
  [(Text.Utf8.encode "a.toml", .file (.bytes (Text.Utf8.encode "[[routes]]\npath = '/{a}'\n")))]

theorem manifests_oneRoute : oneRoute.manifests = oneRoute := by
  rw [Directory.manifests_of_listed (by decide +kernel)]
  decide +kernel

/-- What is told of looking up two paths in that directory. -/
def oneRouteEvents : List Event :=
  [.handlersLoaded "handlers" 1 ["/{a}"], .tableBuilt 1 ["/{a}"], .matchAttempt "/x" 1,
    .routeMatched "/x" "/{a}" [("0", "x"), ("a", "x")], .matchAttempt "/y/z" 1,
    .noRouteMatched "/y/z"]

theorem events_run_oneRoute {environment : Environment} (h : Alike environment []) :
    ((Command.lookUp none false ["/x", "/y/z"]).run
      { environment, list := fun _ => .ok oneRoute, input := [] }).events = oneRouteEvents := by
  let c : Command := .lookUp none false ["/x", "/y/z"]
  let s : Surroundings := { environment := [], list := fun _ => .ok oneRoute, input := [] }
  have hsame : c.run { s with environment } = c.run s := Command.run_congr c s h.settings_eq
  have hstarts : c.Starts s := fun _ => rfl
  have hwatches : c.watches (.ofEnvironment s.environment) = false := rfl
  obtain ⟨t, hloads⟩ : ∃ t, (c.load s).value = .ok t :=
    exists_loadTable_of_listed (List.pairwise_singleton _ _) (by decide +kernel)
  have hload : (c.load s).events =
      [.handlersLoaded "handlers" 1 ["/{a}"], .tableBuilt 1 ["/{a}"]] := by
    simp only [c, s, Command.load, events_logged_loadTable, Directory.reportsOn_eq,
      Directory.skipped, Directory.notice, Directory.routes, Directory.handlers,
      manifests_oneRoute]
    decide +kernel
  have hsize : t.size = 1 := by
    rw [size_of_loadTable hloads, Directory.declared, manifests_oneRoute]
    decide +kernel
  have hending : ∀ path, Command.ending path (t.match? path) = Command.ending path
      ((share 0 (oneRoute.routes (Text.Utf8.encode "handlers"))).findSome?
        (RouteMatch.byTemplate path)) := by
    intro path
    rw [match?_of_loadTable hloads]
    rfl
  rw [Directory.routes, Directory.handlers, manifests_oneRoute] at hending
  have hx : Command.ending "/x" (t.match? "/x") =
      .routeMatched "/x" "/{a}" [("0", "x"), ("a", "x")] := by
    rw [hending]
    decide +kernel
  have hyz : Command.ending "/y/z" (t.match? "/y/z") = .noRouteMatched "/y/z" := by
    rw [hending]
    decide +kernel
  change (c.run { s with environment }).events = _
  rw [hsame, Command.events_run hstarts, hloads, hload]
  dsimp only
  rw [hwatches, Command.events_lookUp, Command.events_answerAll]
  simp [Command.asked, Command.events_answer, hx, hyz, hsize, oneRouteEvents]

/-- A line of JSON tells the level of its event. -/
theorem level_eq_of_entry_eq {e e' : Event} (h : Format.json.entry e = Format.json.entry e') :
    e.level = e'.level := by
  have hrender : (entryJson e).render = (entryJson e').render := String.ofList_inj.mp h
  have hsource : (entryJson e).source = (entryJson e').source := by
    rw [← Option.some.injEq, ← Json.parse?_render, ← Json.parse?_render, hrender]
  simp only [entryJson, Json.source, Json.memberSources, Json.Source.object.injEq,
    List.cons.injEq, Prod.mk.injEq, Json.Source.string.injEq] at hsource
  obtain ⟨⟨-, hname⟩, -⟩ := hsource
  revert hname
  cases e.level <;> cases e'.level <;> decide

/-- With a directive that names a field, under which one of six events is shown. -/
theorem log_tells_run_one_route :
    let c : Command := .lookUp none false ["/x", "/y/z"]
    let s : Surroundings := { environment := [], list := fun _ => .ok oneRoute, input := [] }
    let environment : Environment :=
      [("ROUTESWITCH_LOG_TARGET_FILTER", Text.Utf8.encode "[\x7bpath_params\x7d]=debug")]
    c.Tells s oneRouteEvents ∧ c.run { s with environment } = c.run s ∧
      Shows environment oneRouteEvents := by
  intro c s environment
  have hevents : (c.run s).events = oneRouteEvents := events_run_oneRoute ⟨rfl, rfl, rfl⟩
  obtain ⟨htells, halike⟩ := log_tells_run c s rfl
  obtain ⟨hsame, hshows⟩ := halike environment ⟨rfl, rfl, rfl⟩
  rw [hevents] at htells hshows
  exact ⟨htells, hsame, hshows⟩

/-- A directive may ask for a field, so that of two events with one target and one level only one is
shown. -/
theorem log_depends_on_fields :
    ∃ (c : Command) (s : Surroundings), c.watches (.ofEnvironment s.environment) = false ∧
      ¬ ∃ enables : String → Level → Bool,
        ((Settings.ofEnvironment s.environment).filter s.environment).entries .json
            (c.run s).events =
          ((c.run s).events.filter fun e => enables e.target e.level).map Format.json.entry := by
  let environment : Environment := [("ROUTESWITCH_LOG_TARGET_FILTER",
    Text.Utf8.encode "[\x7bpath_params\x7d]=debug")]
  refine ⟨.lookUp none false ["/x", "/y/z"],
    { environment, list := fun _ => .ok oneRoute, input := [] }, rfl, ?_⟩
  rintro ⟨enables, h⟩
  have halike : Alike environment [] := ⟨rfl, rfl, rfl⟩
  let matched : Event := .routeMatched "/x" "/{a}" [("0", "x"), ("a", "x")]
  have hshown : oneRouteEvents.filter
      ((Settings.ofEnvironment environment).filter environment).shows = [matched] := by
    decide +kernel
  rw [events_run_oneRoute halike, Filter.entries, hshown] at h
  -- The attempt has the target and the level of the match, so that both are shown or none is.
  cases hlookup : enables "routeswitch::router::core" .debug with
  | true =>
    have hlength := congrArg List.length h
    rw [List.length_map, List.length_map, ← List.countP_eq_length_filter] at hlength
    simp only [oneRouteEvents, List.countP_cons, List.countP_nil, Event.target, Event.level,
      hlookup, if_true, List.length_singleton] at hlength
    omega
  | false =>
    have hmatched : Format.json.entry matched ∈ [Format.json.entry matched] :=
      List.mem_singleton_self _
    rw [← List.map_singleton, h] at hmatched
    obtain ⟨e, he, hsame⟩ := List.mem_map.mp hmatched
    obtain ⟨hmem, henables⟩ := List.mem_filter.mp he
    have hlevel : e.level = .debug := level_eq_of_entry_eq hsame
    have htarget : ∀ e ∈ oneRouteEvents, e.level = .debug →
        e.target = "routeswitch::router::core" := by
      decide
    rw [hlevel, htarget e hmem hlevel] at henables
    exact Bool.false_ne_true (hlookup.symm.trans henables)

end TemplateRouter.Log
