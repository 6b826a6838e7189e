import TemplateRouter.Proofs.First
import TemplateRouter.Proofs.Table.Lookup
import TemplateRouter.Proofs.Table.Run
import TemplateRouter.Regex
/-
Which routes a table takes. A route is taken or refused for what it is: a template for its size, an
expression of the caller for its bare source. The routes it would stand with have no part in that.
-/
namespace TemplateRouter

section Engine

variable [Regex.Engine] {α : Type} {limit : Nat}

/-- A template that does not compile within a limit. -/
def Template.Oversized (limit : Nat) (template : String) : Prop :=
  compile template limit = .error (.sizeExceeded limit)

theorem Template.oversized_iff {template : String} :
    Oversized limit template ↔ limit < Regex.Engine.size (expression template) := by
  simp [Oversized, compile_eq_error_iff]

namespace Route

def Oversized (limit : Nat) (route : Route α) : Prop :=
  ∃ template, route.pattern = .template template ∧ Template.Oversized limit template

/-- An expression of the caller whose source is none without the flags. -/
def Unreadable (route : Route α) : Prop :=
  ∃ r cause, route.pattern = .compiled r ∧ Regex.compile {} r.source = .error cause

/-- The error of a route that would be the last of so many in a table. -/
def Fault (limit count : Nat) (route : Route α) (e : RouteError) : Prop :=
  (∃ template, route.pattern = .template template ∧ Template.Oversized limit template ∧
    e = .invalidTemplate template (.sizeExceeded limit)) ∨
  ∃ r cause, route.pattern = .compiled r ∧ Regex.compile {} r.source = .error cause ∧
    e = .build count (.malformed cause)

/-- A route that can stand in a table with a limit. -/
def Accepted (limit : Nat) (route : Route α) : Prop :=
  ¬ route.Oversized limit ∧ ¬ route.Unreadable

end Route

/-- The error that a list of routes is refused with. The first template that is too large counts;
if there is none, the first expression that cannot be read. -/
inductive Refusal (limit : Nat) (routes : List (SharedRoute α)) : RouteError → Prop
  | oversized {route template} : IsFirst (fun r => r.Oversized limit) routes route →
      route.pattern = .template template →
      Refusal limit routes (.invalidTemplate template (.sizeExceeded limit))
  | unreadable {route r cause} : (∀ r ∈ routes, ¬ r.Oversized limit) →
      IsFirst (fun r => r.Unreadable) routes route → route.pattern = .compiled r →
      Regex.compile {} r.source = .error cause →
      Refusal limit routes (.build routes.length (.malformed cause))

namespace Entry

variable {route : SharedRoute α} {entry : Entry α} {e : RouteError}

theorem compile_eq_error_iff :
    compile route limit = .error e ↔
      ∃ template, route.pattern = .template template ∧ Template.Oversized limit template ∧
        e = .invalidTemplate template (.sizeExceeded limit) := by
  rw [compile]
  cases hpattern : route.pattern with
  | compiled r => simp
  | template t =>
    cases hcompile : Template.compile t limit with
    | error cause =>
      obtain ⟨rfl, -⟩ := Template.compile_eq_error_iff.mp hcompile
      simp [Template.Oversized, hcompile, eq_comm]
    | ok c => simp [Template.Oversized, hcompile]

theorem exists_compile_error_iff :
    (∃ e, compile route limit = .error e) ↔ route.Oversized limit := by
  constructor
  · rintro ⟨e, h⟩
    obtain ⟨template, hpattern, hsize, -⟩ := compile_eq_error_iff.mp h
    exact ⟨template, hpattern, hsize⟩
  · rintro ⟨template, hpattern, hsize⟩
    exact ⟨_, compile_eq_error_iff.mpr ⟨template, hpattern, hsize, rfl⟩⟩

theorem source_eq_error_iff (h : compile entry.route limit = .ok entry)
    {cause : Regex.SyntaxError} :
    Regex.compile {} entry.regex.source = .error cause ↔
      ∃ r, entry.route.pattern = .compiled r ∧ Regex.compile {} r.source = .error cause := by
  cases hpattern : entry.route.pattern with
  | template t =>
    have hplain : Regex.compile {} entry.regex.source = .ok entry.regex :=
      Template.regex_plain (compile_template hpattern h)
    simp [hplain]
  | compiled r =>
    rw [compile, hpattern, Except.ok.injEq] at h
    rw [← h]
    simp

theorem compileAll_eq_mapM (limit : Nat) (routes : List (SharedRoute α)) :
    compileAll limit routes = routes.mapM fun route => compile route limit := by
  induction routes with
  | nil => rfl
  | cons route routes ih =>
    rw [compileAll, List.mapM_cons, ih]
    cases compile route limit with
    | error e => rfl
    | ok entry => cases routes.mapM fun route => compile route limit <;> rfl

end Entry

theorem Switch.compileSources_eq_mapM (entries : List (Entry α)) :
    compileSources entries = entries.mapM fun entry => Regex.compile {} entry.regex.source := by
  induction entries with
  | nil => rfl
  | cons entry entries ih =>
    rw [compileSources, List.mapM_cons, ih]
    cases Regex.compile {} entry.regex.source with
    | error e => rfl
    | ok r => cases entries.mapM fun entry => Regex.compile {} entry.regex.source <;> rfl

namespace Table

variable {entries : List (Entry α)} {routes : List (SharedRoute α)} {route : SharedRoute α}
  {e : RouteError} {t : Table α}

theorem value_buildSwitch_eq_error_iff :
    (buildSwitch entries limit).value = .error e ↔
      ∃ cause, Switch.compileSources entries = .error cause ∧
        e = .build entries.length (.malformed cause) := by
  cases entries with
  | nil => simp [buildSwitch, Switch.compileSources]
  | cons entry entries =>
    rw [buildSwitch, if_neg (by simp), Switch.build]
    cases Switch.compileSources (entry :: entries) with
    | error cause => simp [eq_comm]
    | ok sources =>
      simp only [reduceCtorEq, false_and, exists_false]
      split <;> simp

theorem isFirst_oversized_iff :
    IsFirst (fun r => ∃ e, Entry.compile r limit = .error e) routes route ↔
      IsFirst (fun r => r.Oversized limit) routes route :=
  IsFirst.congr fun _ _ => Entry.exists_compile_error_iff

theorem compileAll_eq_error_iff :
    Entry.compileAll limit routes = .error e ↔
      ∃ route template, IsFirst (fun r => r.Oversized limit) routes route ∧
        route.pattern = .template template ∧
        e = .invalidTemplate template (.sizeExceeded limit) := by
  rw [Entry.compileAll_eq_mapM, mapM_eq_error_iff]
  constructor
  · rintro ⟨route, hfirst, h⟩
    obtain ⟨template, hpattern, -, rfl⟩ := Entry.compile_eq_error_iff.mp h
    exact ⟨route, template, isFirst_oversized_iff.mp hfirst, hpattern, rfl⟩
  · rintro ⟨route, template, hfirst, hpattern, rfl⟩
    obtain ⟨template', hpattern', hsize⟩ := hfirst.holds
    rw [hpattern, RoutePattern.template.injEq] at hpattern'
    subst hpattern'
    exact ⟨route, isFirst_oversized_iff.mpr hfirst,
      Entry.compile_eq_error_iff.mpr ⟨template, hpattern, hsize, rfl⟩⟩

theorem compileSources_eq_error_iff
    (h : ∀ entry ∈ entries, Entry.compile entry.route limit = .ok entry)
    {cause : Regex.SyntaxError} :
    Switch.compileSources entries = .error cause ↔
      ∃ route r, IsFirst (fun r => r.Unreadable) (entries.map Entry.route) route ∧
        route.pattern = .compiled r ∧ Regex.compile {} r.source = .error cause := by
  have hunreadable : ∀ entry ∈ entries,
      ((∃ e, Regex.compile {} entry.regex.source = .error e) ↔ entry.route.Unreadable) := by
    intro entry hentry
    rw [Route.Unreadable, exists_comm]
    exact exists_congr fun e => Entry.source_eq_error_iff (h entry hentry)
  rw [Switch.compileSources_eq_mapM, mapM_eq_error_iff]
  simp only [IsFirst.congr hunreadable, IsFirst.map_iff]
  constructor
  · rintro ⟨entry, hfirst, hsource⟩
    obtain ⟨r, hpattern, hr⟩ := (Entry.source_eq_error_iff (h entry hfirst.mem)).mp hsource
    exact ⟨entry.route, r, ⟨entry, hfirst, rfl⟩, hpattern, hr⟩
  · rintro ⟨_, r, ⟨entry, hfirst, rfl⟩, hpattern, hr⟩
    exact ⟨entry, hfirst, (Entry.source_eq_error_iff (h entry hfirst.mem)).mpr ⟨r, hpattern, hr⟩⟩

theorem refusal_iff_of_compile_error {e' : RouteError}
    (h : Entry.compileAll limit routes = .error e') : Refusal limit routes e ↔ e' = e := by
  obtain ⟨route, template, hfirst, hpattern, rfl⟩ := compileAll_eq_error_iff.mp h
  constructor
  · intro hrefusal
    cases hrefusal with
    | oversized hfirst' hpattern' =>
      have hother := compileAll_eq_error_iff.mpr ⟨_, _, hfirst', hpattern', rfl⟩
      rw [h, Except.error.injEq] at hother
      exact hother
    | unreadable hnone => exact absurd hfirst.holds (hnone route hfirst.mem)
  · rintro rfl
    exact .oversized hfirst hpattern

theorem not_oversized_of_compileAll (h : Entry.compileAll limit routes = .ok entries) :
    ∀ r ∈ routes, ¬ r.Oversized limit := by
  intro r hr hover
  obtain ⟨route, hfirst⟩ := IsFirst.exists_of_mem (p := fun r => r.Oversized limit) hr hover
  obtain ⟨template, hpattern, -⟩ := hfirst.holds
  have herror := compileAll_eq_error_iff.mpr ⟨route, template, hfirst, hpattern, rfl⟩
  rw [h] at herror
  cases herror

theorem refusal_iff_of_compileAll (h : Entry.compileAll limit routes = .ok entries) :
    Refusal limit routes e ↔ (buildSwitch entries limit).value = .error e := by
  -- No template is too large, so only sources are left to be refused for.
  have hnone := not_oversized_of_compileAll h
  obtain ⟨rfl, hcompiled⟩ := Entry.compileAll_eq_ok_iff.mp h
  rw [value_buildSwitch_eq_error_iff]
  simp only [compileSources_eq_error_iff hcompiled]
  constructor
  · intro hrefusal
    cases hrefusal with
    | oversized hfirst => exact absurd hfirst.holds (hnone _ hfirst.mem)
    | unreadable _ hfirst hpattern hr =>
      exact ⟨_, ⟨_, _, hfirst, hpattern, hr⟩, by rw [List.length_map]⟩
  · rintro ⟨cause, ⟨route, r, hfirst, hpattern, hr⟩, rfl⟩
    have hrefusal := Refusal.unreadable hnone hfirst hpattern hr
    rw [List.length_map] at hrefusal
    exact hrefusal

/-- A list of routes has no table exactly if it is refused, and then with this error. -/
theorem value_ofRoutes_eq_error_iff :
    (ofRoutes routes limit).value = .error e ↔ Refusal limit routes e := by
  rw [value_ofRoutes]
  cases hentries : Entry.compileAll limit routes with
  | error e' => rw [refusal_iff_of_compile_error hentries, Except.bind, Except.error.injEq]
  | ok entries =>
    rw [refusal_iff_of_compileAll hentries, Except.bind]
    cases (buildSwitch entries limit).value <;> simp [Except.map]

/-- Some error refuses a list exactly if one of its routes is bad on its own. -/
theorem exists_refusal_iff :
    (∃ e, Refusal limit routes e) ↔ ∃ r ∈ routes, r.Oversized limit ∨ r.Unreadable := by
  constructor
  · rintro ⟨e, h⟩
    cases h with
    | oversized hfirst => exact ⟨_, hfirst.mem, .inl hfirst.holds⟩
    | unreadable _ hfirst => exact ⟨_, hfirst.mem, .inr hfirst.holds⟩
  · rintro ⟨r, hr, hbad⟩
    by_cases hover : ∃ r ∈ routes, r.Oversized limit
    · obtain ⟨r, hr, hover⟩ := hover
      obtain ⟨route, hfirst⟩ := IsFirst.exists_of_mem (p := fun r => r.Oversized limit) hr hover
      obtain ⟨template, hpattern, -⟩ := hfirst.holds
      exact ⟨_, .oversized hfirst hpattern⟩
    · have hnone : ∀ r ∈ routes, ¬ r.Oversized limit := fun r hr h => hover ⟨r, hr, h⟩
      have hunread := hbad.resolve_left (hnone r hr)
      obtain ⟨route, hfirst⟩ := IsFirst.exists_of_mem (p := fun r => r.Unreadable) hr hunread
      obtain ⟨r', cause, hpattern, hcause⟩ := hfirst.holds
      exact ⟨_, .unreadable hnone hfirst hpattern hcause⟩

theorem exists_ofRoutes_iff :
    (∃ t, (ofRoutes routes limit).value = .ok t) ↔
      ∀ r ∈ routes, r.Accepted limit := by
  rw [exists_ok_iff]
  simp only [value_ofRoutes_eq_error_iff, exists_refusal_iff, not_exists, not_and, not_or]
  rfl

/-- The error of one more route behind routes that are not refused. -/
theorem refusal_concat_iff (h : ∀ r ∈ routes, r.Accepted limit) :
    Refusal limit (routes ++ [route]) e ↔ route.Fault limit (routes.length + 1) e := by
  have hover : ∀ r ∈ routes, ¬ r.Oversized limit := fun r hr => (h r hr).1
  have hread : ∀ r ∈ routes, ¬ r.Unreadable := fun r hr => (h r hr).2
  constructor
  · intro hrefusal
    cases hrefusal with
    | oversized hfirst hpattern =>
      obtain ⟨rfl, template', hpattern', hsize⟩ := (IsFirst.concat_iff hover).mp hfirst
      rw [hpattern, RoutePattern.template.injEq] at hpattern'
      subst hpattern'
      exact .inl ⟨_, hpattern, hsize, rfl⟩
    | unreadable hnone hfirst hpattern hcause =>
      obtain ⟨rfl, -⟩ := (IsFirst.concat_iff hread).mp hfirst
      exact .inr ⟨_, _, hpattern, hcause, by simp⟩
  · rintro (⟨template, hpattern, hsize, rfl⟩ | ⟨r, cause, hpattern, hcause, rfl⟩)
    · exact .oversized ((IsFirst.concat_iff hover).mpr ⟨rfl, template, hpattern, hsize⟩) hpattern
    · have hfirst := (IsFirst.concat_iff hread).mpr ⟨rfl, r, cause, hpattern, hcause⟩
      have hnone : ∀ r ∈ routes ++ [route], ¬ r.Oversized limit := by
        intro r' hr'
        rcases List.mem_append.mp hr' with hr' | hr'
        · exact hover r' hr'
        · rw [List.mem_singleton.mp hr']
          rintro ⟨template, htemplate, -⟩
          rw [hpattern] at htemplate
          cases htemplate
      have hrefusal := Refusal.unreadable hnone hfirst hpattern hcause
      rw [List.length_append, List.length_singleton] at hrefusal
      exact hrefusal

theorem InStep.accepted (h : t.InStep) :
    ∀ r ∈ t.routes, r.Accepted t.sizeLimit :=
  exists_ofRoutes_iff.mp ⟨t, ofRoutes_eq_ok_iff.mpr ⟨h, rfl, rfl⟩⟩

/-- A call is refused exactly if the routes it would leave are. -/
theorem InStep.call_refused_iff (h : t.InStep) (c : Call α) :
    (t.call c).1 = .refused e ↔ Refusal t.sizeLimit (c.next t.routes) e := by
  rw [← value_ofRoutes_eq_error_iff, h.call_eq]
  cases (ofRoutes (c.next t.routes) t.sizeLimit).value with
  | error e' => simp
  | ok fresh => cases c <;> simp [Call.answer]

theorem InStep.call_answered (h : t.InStep) (c : Call α)
    (hnext : ∀ r ∈ c.next t.routes, r.Accepted t.sizeLimit) :
    ∃ fresh, (t.call c).1 = c.answer t.routes fresh := by
  obtain ⟨fresh, hfresh⟩ := exists_ofRoutes_iff.mpr hnext
  exact ⟨fresh, by rw [h.call_eq, hfresh]⟩

/-- How a table fails: for what is wrong with a route that comes in, and for nothing else. -/
structure FailsByIncoming (t : Table α) : Prop where
  remove_succeeds (route : SharedRoute α) : ∃ n, (t.call (.remove route)).1 = .removed n
  replace_registered (routes : List (SharedRoute α)) :
    (∀ r ∈ routes, r ∈ t.routes) → (t.call (.replace routes)).1 = .done
  add_registered : ∀ r ∈ t.routes, (t.call (.add r)).1 = .done
  add_refused_iff (route : SharedRoute α) (e : RouteError) :
    (t.call (.add route)).1 = .refused e ↔ route.Fault t.sizeLimit (t.size + 1) e
  addNew_refused_iff (route : Route α) (handle : Nat) (e : RouteError) :
    (t.call (.addNew route handle)).1 = .refused e ↔ route.Fault t.sizeLimit (t.size + 1) e
  replace_refused_iff (routes : List (SharedRoute α)) (e : RouteError) :
    (t.call (.replace routes)).1 = .refused e ↔ Refusal t.sizeLimit routes e
  replace_nil : (t.call (.replace [])).1 = .done

theorem InStep.failsByIncoming (h : t.InStep) : t.FailsByIncoming := by
  have hsize : t.routes.length = t.size := List.length_map _
  constructor
  · intro route
    have hnext : ∀ r ∈ (Call.remove route).next t.routes, r.Accepted t.sizeLimit :=
      fun r hr => h.accepted r (List.mem_filter.mp hr).1
    obtain ⟨fresh, hanswer⟩ := h.call_answered _ hnext
    exact ⟨_, hanswer⟩
  · intro routes hregistered
    obtain ⟨fresh, hanswer⟩ := h.call_answered (.replace routes)
      fun r hr => h.accepted r (hregistered r hr)
    exact hanswer
  · intro r hr
    have hnext : ∀ r' ∈ (Call.add r).next t.routes, r'.Accepted t.sizeLimit := by
      intro r' hr'
      rcases List.mem_append.mp hr' with hr' | hr'
      · exact h.accepted r' hr'
      · rw [List.mem_singleton.mp hr']
        exact h.accepted r hr
    obtain ⟨fresh, hanswer⟩ := h.call_answered _ hnext
    exact hanswer
  · intro route e
    rw [h.call_refused_iff, Call.next, refusal_concat_iff h.accepted, hsize]
  · intro route handle e
    rw [h.call_refused_iff, Call.next, refusal_concat_iff h.accepted, hsize]
  · intro routes e
    exact h.call_refused_iff (.replace routes)
  · obtain ⟨fresh, hanswer⟩ := h.call_answered (.replace []) (by simp [Call.next])
    exact hanswer

theorem start_table_eq_error_iff (start : Start α) :
    start.table = .error e ↔ Refusal start.limit start.routes e := by
  cases start with
  | empty =>
    constructor
    · intro h
      cases h
    · intro h
      obtain ⟨r, hr, -⟩ := exists_refusal_iff.mp ⟨e, h⟩
      cases hr
  | ofNew routes first => exact value_ofRoutes_eq_error_iff
  | ofShared routes => exact value_ofRoutes_eq_error_iff
  | withLimit routes limit => exact value_ofRoutes_eq_error_iff

/-- However a table was made and called, what it refuses it refuses for the incoming routes. Tables
are made, and their routes replaced, exactly if no route is bad on its own. -/
theorem fails_by_incoming {start : Start α} (h : start.table = .ok t) (calls : List (Call α)) :
    (t.run calls).2.sizeLimit = start.limit ∧ (t.run calls).2.FailsByIncoming ∧
      (∀ (start : Start α) e, start.table = .error e ↔ Refusal start.limit start.routes e) ∧
      (∀ (routes : List (SharedRoute α)) limit, (∃ e, Refusal limit routes e) ↔
        ∃ r ∈ routes, r.Oversized limit ∨ r.Unreadable) ∧
      ∀ limit, ∃ t : Table α, (Start.withLimit [] limit).table = .ok t := by
  obtain ⟨hstep, -, hlimit⟩ := inStep_table h
  obtain ⟨hrun, hrunLimit, -⟩ := hstep.run calls
  refine ⟨hrunLimit.trans hlimit, hrun.failsByIncoming, fun s e => start_table_eq_error_iff s,
    fun routes limit => exists_refusal_iff, ?_⟩
  intro limit
  exact exists_ofRoutes_iff.mpr (by simp)

end Table

end Engine

attribute [local instance] Regex.Engine.counted

namespace Table

/-- With an expression that only the octal flag makes one, added behind another. -/
theorem fails_by_incoming_octal :
    ∃ r₁ r₂ : Regex, Regex.compile {} "A" = .ok r₁ ∧
      Regex.compile { octal := true } "\\1" = .ok r₂ ∧
      ∃ t : Table Unit, (Start.withLimit [⟨⟨.compiled r₁, ()⟩, 0⟩] 16).table = .ok t ∧
        (t.call (.add ⟨⟨.compiled r₂, ()⟩, 1⟩)).1 =
          .refused (.build 2 (.malformed .backreference)) ∧
        (t.run [.add ⟨⟨.compiled r₂, ()⟩, 1⟩]).2.FailsByIncoming := by
  refine ⟨_, _, rfl, rfl, _, rfl, rfl, ?_⟩
  exact (@fails_by_incoming _ Unit _
    (.withLimit [⟨⟨.compiled ⟨"A", {}, .set (.singleton 'A')⟩, ()⟩, 0⟩] 16) rfl _).2.1

end Table

end TemplateRouter
