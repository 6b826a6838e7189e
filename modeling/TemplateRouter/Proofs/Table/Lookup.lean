import TemplateRouter.Proofs.Table.State
/-
What a table finds: among routes without flags the first whose expression matches, and among
templates the first that has a reading of the path, with its greedy reading.
-/
namespace TemplateRouter

open Template

variable {α : Type}

/-- The match of a path by a template, if there is one: its captures are the greedy reading. -/
def RouteMatch.byTemplate (path : String) (route : SharedRoute α) : Option (RouteMatch α) :=
  let ts := tokens route.pattern.text.toList
  (split ts path.toList).map fun vs =>
    let captures := vs.map fun v => some (String.ofList v)
    ⟨route, captures, paramsOf ((names ts).map String.ofList) captures⟩

/-- Some reading of a path by a template. -/
def Template.Covers (template path : String) : Prop :=
  ∃ ts vs, Cut template.toList ts ∧ Decomposes ts path.toList vs

theorem RouteMatch.byTemplate_eq_none_iff {path : String} {route : SharedRoute α} :
    byTemplate path route = none ↔ ¬ Covers route.pattern.text path := by
  have hcovers : Covers route.pattern.text path ↔
      ∃ vs, Decomposes (tokens route.pattern.text.toList) path.toList vs := by
    constructor
    · rintro ⟨ts, vs, hcut, hvs⟩
      rw [cut_iff.mp hcut] at hvs
      exact ⟨vs, hvs⟩
    · rintro ⟨vs, hvs⟩
      exact ⟨_, vs, cut_iff.mpr rfl, hvs⟩
  rw [hcovers, ← split_isSome_iff, byTemplate, Option.map_eq_none_iff,
    Option.not_isSome_iff_eq_none]

theorem RouteMatch.greedy_of_byTemplate {path : String} {route : SharedRoute α} {m : RouteMatch α}
    (h : byTemplate path route = some m) :
    ∃ ts vs, Cut route.pattern.text.toList ts ∧ Greedy ts path.toList vs ∧
      m = ⟨route, vs.map fun v => some (String.ofList v),
        paramsOf ((names ts).map String.ofList) (vs.map fun v => some (String.ofList v))⟩ := by
  obtain ⟨vs, hvs, rfl⟩ := Option.map_eq_some_iff.mp h
  exact ⟨_, vs, cut_iff.mpr rfl, greedy_of_split hvs, rfl⟩

/-- All of a match but the identity of its route. -/
def RouteMatch.content (m : RouteMatch α) : Route α × List (Option String) × Dictionary String :=
  (m.route.toRoute, m.captures, m.params)

theorem RouteMatch.content_byTemplate (path : String) (route : SharedRoute α) :
    (byTemplate path route).map content =
      (byTemplate path { route.toRoute with handle := 0 }).map content := by
  simp only [byTemplate, Option.map_map]
  rfl

variable [Regex.Engine]

theorem Template.regex_plain {template : String} {limit : Nat} {c : Compiled}
    (h : compile template limit = .ok c) : c.regex.Plain := by
  rw [compile_eq] at h
  split at h
  · cases h
  · rw [Except.ok.injEq] at h
    subst h
    exact compile_source template

theorem Entry.compile_template {entry : Entry α} {template : String} {limit : Nat}
    (hpattern : entry.route.pattern = .template template)
    (h : Entry.compile entry.route limit = .ok entry) :
    Template.compile template limit = .ok ⟨entry.regex, entry.keys⟩ := by
  rw [Entry.compile, hpattern] at h
  cases hc : Template.compile template limit with
  | error e => simp [hc] at h
  | ok c =>
    simp only [hc, Except.ok.injEq] at h
    rw [← h]

theorem Entry.capture_template {entry : Entry α} {template : String} {limit : Nat}
    (hpattern : entry.route.pattern = .template template)
    (h : Entry.compile entry.route limit = .ok entry) (path : String) :
    ((Switch.capture path.toList entry).map fun (e, c) => RouteMatch.ofCaptured e c) =
      RouteMatch.byTemplate path entry.route := by
  have hcompiled := compile_eq_ok (Entry.compile_template hpattern h)
  have hkeys : entry.keys = (names (tokens template.toList)).map String.ofList := hcompiled.2
  rw [Switch.capture, captures?_of_root hcompiled.1, RouteMatch.byTemplate, hpattern,
    RoutePattern.text, Option.map_map, Option.map_map]
  refine congrArg (Option.map · _) ?_
  funext vs
  simp only [Function.comp_apply, RouteMatch.ofCaptured, List.map_map]
  rw [hkeys]
  rfl

namespace Table

variable {t t' : Table α}

theorem InStep.find?_eq (h : t.InStep) (path : List Char) :
    t.switch.find? path = t.registered.findSome? (Switch.dispatch t.switch.isLinear path) := by
  have hbuilt := h.switched
  unfold buildSwitch at hbuilt
  split at hbuilt
  · next hnil =>
    rw [Told.value_pure, Except.ok.injEq] at hbuilt
    rw [← hbuilt, List.isEmpty_iff.mp hnil]
    rfl
  · exact Switch.find?_of_build hbuilt path

theorem InStep.find?_of_plain (h : t.InStep) (hplain : ∀ e ∈ t.registered, e.regex.Plain)
    (path : List Char) :
    t.switch.find? path = t.registered.findSome? (Switch.capture path) := by
  rw [h.find?_eq]
  exact Switch.findSome?_congr fun e he => Switch.dispatch_of_plain (hplain e he) _ path

section Templates

variable (htemplates : ∀ r ∈ t.routes, ∃ template, r.pattern = .template template)

include htemplates

theorem InStep.match?_of_templates (h : t.InStep) (path : String) :
    t.match? path = t.routes.findSome? (RouteMatch.byTemplate path) := by
  rw [h.routes_eq] at htemplates ⊢
  have hpattern : ∀ e ∈ t.registered, ∃ template, e.route.pattern = .template template :=
    fun e he => htemplates e.route (List.mem_map_of_mem he)
  have hplain : ∀ e ∈ t.registered, e.regex.Plain := by
    intro e he
    obtain ⟨template, htemplate⟩ := hpattern e he
    have hregex := regex_plain (Entry.compile_template htemplate (h.compiled e he))
    exact hregex
  rw [match?, h.find?_of_plain hplain, List.map_findSome?, List.findSome?_map]
  refine Switch.findSome?_congr fun e he => ?_
  obtain ⟨template, htemplate⟩ := hpattern e he
  rw [Function.comp_apply, Function.comp_apply]
  exact Entry.capture_template htemplate (h.compiled e he) path

theorem InStep.match?_eq_none_iff (h : t.InStep) {path : String} :
    t.match? path = none ↔ ∀ r ∈ t.routes, ¬ Covers r.pattern.text path := by
  rw [h.match?_of_templates htemplates, List.findSome?_eq_none_iff]
  exact forall₂_congr fun r _ => RouteMatch.byTemplate_eq_none_iff

/-- Among templates the first one that covers a path gives its match. -/
theorem InStep.match?_eq_some (h : t.InStep) {path : String} {m : RouteMatch α}
    (hm : t.match? path = some m) :
    ∃ before after, t.routes = before ++ m.route :: after ∧
      (∀ r ∈ before, ¬ Covers r.pattern.text path) ∧ Covers m.route.pattern.text path ∧
      RouteMatch.byTemplate path m.route = some m := by
  rw [h.match?_of_templates htemplates, List.findSome?_eq_some_iff] at hm
  obtain ⟨before, r, after, hroutes, hr, hbefore⟩ := hm
  obtain ⟨ts, vs, hcut, hgreedy, rfl⟩ := RouteMatch.greedy_of_byTemplate hr
  refine ⟨before, after, hroutes, ?_, ⟨ts, vs, hcut, hgreedy.toDecomposes⟩, hr⟩
  exact fun b hb => RouteMatch.byTemplate_eq_none_iff.mp (hbefore b hb)

end Templates

/-- Two tables that show the same patterns and answer alike, whatever handles their routes have. -/
structure Alike (t t' : Table α) : Prop where
  patterns_eq : t.patterns = t'.patterns
  match?_eq (path : String) :
    (t.match? path).map RouteMatch.content = (t'.match? path).map RouteMatch.content

theorem InStep.content_match? (h : t.InStep)
    (htemplates : ∀ r ∈ t.routes, ∃ template, r.pattern = .template template) (path : String) :
    (t.match? path).map RouteMatch.content =
      (t.routes.map SharedRoute.toRoute).findSome? fun route =>
        (RouteMatch.byTemplate path { route with handle := 0 }).map RouteMatch.content := by
  rw [h.match?_of_templates htemplates, List.map_findSome?, List.findSome?_map]
  refine Switch.findSome?_congr fun r _ => ?_
  exact RouteMatch.content_byTemplate path r

theorem alike_of_routes (h : t.InStep) (h' : t'.InStep)
    (htemplates : ∀ r ∈ t.routes, ∃ template, r.pattern = .template template)
    (hroutes : t.routes.map SharedRoute.toRoute = t'.routes.map SharedRoute.toRoute) :
    t.Alike t' := by
  have htemplates' : ∀ r ∈ t'.routes, ∃ template, r.pattern = .template template := by
    intro r hr
    have hmem := List.mem_map_of_mem hr (f := SharedRoute.toRoute)
    rw [← hroutes] at hmem
    obtain ⟨r', hr', hsame⟩ := List.mem_map.mp hmem
    rw [← hsame]
    exact htemplates r' hr'
  constructor
  · have htexts := congrArg (List.map fun r : Route α => r.pattern.text) hroutes
    rw [List.map_map, List.map_map] at htexts
    exact htexts
  · intro path
    rw [h.content_match? htemplates, h'.content_match? htemplates', hroutes]

end Table

end TemplateRouter
