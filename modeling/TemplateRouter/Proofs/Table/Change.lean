import TemplateRouter.Proofs.Table.Acceptance
import TemplateRouter.Proofs.Table.Limit
import TemplateRouter.Regex
/-
What adding and removing routes changes in the answers. Each change builds the switch anew, maybe of
the other kind. Without flags a table still answers by the first of its entries that matches, so one
more entry answers only the paths that had no answer, and the entries that go are missed only on the
paths they had won.
-/
namespace TemplateRouter

variable {α : Type}

def Entry.match? (entry : Entry α) (path : String) : Option (RouteMatch α) :=
  (entry.regex.captures? path.toList).map (RouteMatch.ofCaptured entry)

namespace Entry

variable {entry : Entry α} {entries : List (Entry α)} {path : String} {m : RouteMatch α}

theorem route_of_match? (h : entry.match? path = some m) : m.route = entry.route := by
  obtain ⟨c, -, rfl⟩ := Option.map_eq_some_iff.mp h
  rfl

theorem isSome_match? (entry : Entry α) (path : String) :
    (entry.match? path).isSome = entry.regex.isMatch path.toList := by
  rw [match?, Option.isSome_map, Regex.isMatch]

theorem findSome?_match?_eq_some_iff :
    entries.findSome? (match? · path) = some m ↔
      ∃ e, IsFirst (fun e => e.regex.isMatch path.toList) entries e ∧ e.match? path = some m := by
  simp only [findSome?_eq_some_iff_isFirst, isSome_match?]

end Entry

namespace Table

/-- The calls that append a route, under the handle it has or gets. -/
inductive Call.Appends : Call α → SharedRoute α → Prop
  | add (route) : Appends (.add route) route
  | addNew (route : Route α) (handle) : Appends (.addNew route handle) { route with handle }

theorem Call.Appends.next_eq {c : Call α} {route : SharedRoute α}
    (h : c.Appends route) (l : List (SharedRoute α)) :
    c.next l = l ++ [route] := by
  cases h <;> rfl

end Table

section Engine

variable [Regex.Engine]

namespace Table

variable {t t' : Table α} {c : Call α} {route : SharedRoute α} {path : String}

theorem run_pair (t : Table α) (c c' : Call α) :
    (t.run [c, c']).2 = ((t.call c).2.call c').2 := rfl

/-- The calls that change the routes change the answers only where they should: a route that comes
in answers what had no answer, and after a route goes the first of the entries that stay answers. -/
structure ChangesLocally (t : Table α) : Prop where
  append {c : Call α} {route : SharedRoute α} : c.Appends route → route.Flagless →
    (∀ e, (t.call c).1 ≠ .refused e) →
    ∃ entry, Entry.compile route t.sizeLimit = .ok entry ∧
      ∀ path, (t.call c).2.match? path = (t.match? path).or (entry.match? path)
  remove_same (route : SharedRoute α) (path : String) :
    (∀ m, t.match? path = some m → m.route.handle ≠ route.handle) →
    (t.call (.remove route)).2.match? path = t.match? path
  remove_eq_some_iff (route : SharedRoute α) (path : String) (m : RouteMatch α) :
    (t.call (.remove route)).2.match? path = some m ↔
      ∃ e, IsFirst (fun e => e.regex.isMatch path.toList)
          (t.registered.filter fun e => e.route.handle != route.handle) e ∧
        e.match? path = some m
  append_remove {c : Call α} {route : SharedRoute α} : c.Appends route →
    (∀ r ∈ t.routes, r.handle ≠ route.handle) → (t.run [c, .remove route]).2 = t
  remove_comm (r s : SharedRoute α) :
    (t.run [.remove r, .remove s]).2 = (t.run [.remove s, .remove r]).2

namespace InStep

theorem eq_of_routes (h : t.InStep) (h' : t'.InStep) (hroutes : t.routes = t'.routes)
    (hlimit : t.sizeLimit = t'.sizeLimit) : t = t' := by
  have hfresh := ofRoutes_eq_ok_iff.mpr ⟨h, hroutes, hlimit⟩
  have hfresh' := ofRoutes_eq_ok_iff.mpr ⟨h', rfl, rfl⟩
  exact Except.ok.inj (hfresh.symm.trans hfresh')

theorem routes_of_answered (h : t.InStep) (hanswered : ∀ e, (t.call c).1 ≠ .refused e) :
    (t.call c).2.routes = c.next t.routes := by
  rw [h.call_eq] at hanswered ⊢
  cases hfresh : (ofRoutes (c.next t.routes) t.sizeLimit).value with
  | error e =>
    rw [hfresh] at hanswered
    exact absurd rfl (hanswered e)
  | ok fresh => exact (ofRoutes_eq_ok_iff.mp hfresh).2.1

theorem routes_remove (h : t.InStep) (route : SharedRoute α) :
    (t.call (.remove route)).2.routes = t.routes.filter fun r => r.handle != route.handle := by
  refine h.routes_of_answered fun e hrefused => ?_
  obtain ⟨n, hn⟩ := h.failsByIncoming.remove_succeeds route
  rw [hn] at hrefused
  cases hrefused

theorem registered_remove (h : t.InStep) (route : SharedRoute α) :
    (t.call (.remove route)).2.registered = without t.registered route := by
  obtain ⟨hstep, hlimit, -⟩ := h.call (.remove route)
  have hcompiled := hstep.compileAll_eq
  rw [hlimit, h.routes_remove, h.compileAll_without] at hcompiled
  exact (Except.ok.inj hcompiled).symm

theorem registered_append (h : t.InStep) (hc : c.Appends route)
    (hanswered : ∀ e, (t.call c).1 ≠ .refused e) :
    ∃ entry, Entry.compile route t.sizeLimit = .ok entry ∧
      (t.call c).2.registered = t.registered ++ [entry] := by
  obtain ⟨hstep, hlimit, -⟩ := h.call c
  have hcompiled := hstep.compileAll_eq
  rw [hlimit, h.routes_of_answered hanswered, hc.next_eq, Entry.compileAll_concat,
    h.compileAll_eq] at hcompiled
  cases hentry : Entry.compile route t.sizeLimit with
  | error e => simp [hentry, Except.bind, Except.map] at hcompiled
  | ok entry =>
    simp only [hentry, Except.bind, Except.map, Except.ok.injEq] at hcompiled
    exact ⟨entry, rfl, hcompiled.symm⟩

theorem match?_of_flagless (h : t.InStep) (hflagless : ∀ r ∈ t.routes, r.Flagless)
    (path : String) : t.match? path = t.registered.findSome? (Entry.match? · path) := by
  rw [match?, h.find?_of_plain (h.plain_of_flagless hflagless), List.map_findSome?]
  refine Switch.findSome?_congr fun e _ => ?_
  rw [Function.comp_apply, Switch.capture, Option.map_map]
  rfl

theorem match?_append (h : t.InStep) (hflagless : ∀ r ∈ t.routes, r.Flagless)
    (hc : c.Appends route) (hroute : route.Flagless)
    (hanswered : ∀ e, (t.call c).1 ≠ .refused e) :
    ∃ entry, Entry.compile route t.sizeLimit = .ok entry ∧
      ∀ path, (t.call c).2.match? path = (t.match? path).or (entry.match? path) := by
  obtain ⟨entry, hentry, hregistered⟩ := h.registered_append hc hanswered
  refine ⟨entry, hentry, fun path => ?_⟩
  have hflagless' : ∀ r ∈ (t.call c).2.routes, r.Flagless := by
    rw [h.routes_of_answered hanswered, hc.next_eq]
    intro r hr
    rcases List.mem_append.mp hr with hr | hr
    · exact hflagless r hr
    · rw [List.mem_singleton.mp hr]
      exact hroute
  rw [(h.call c).1.match?_of_flagless hflagless', hregistered, List.findSome?_append,
    ← h.match?_of_flagless hflagless, List.findSome?_singleton]

theorem match?_remove (h : t.InStep) (hflagless : ∀ r ∈ t.routes, r.Flagless)
    (route : SharedRoute α) (path : String) :
    (t.call (.remove route)).2.match? path =
      (without t.registered route).findSome? (Entry.match? · path) := by
  have hflagless' : ∀ r ∈ (t.call (.remove route)).2.routes, r.Flagless := by
    rw [h.routes_remove]
    exact fun r hr => hflagless r (List.mem_filter.mp hr).1
  rw [(h.call (.remove route)).1.match?_of_flagless hflagless', h.registered_remove]

theorem match?_remove_same (h : t.InStep) (hflagless : ∀ r ∈ t.routes, r.Flagless)
    (hother : ∀ m, t.match? path = some m → m.route.handle ≠ route.handle) :
    (t.call (.remove route)).2.match? path = t.match? path := by
  rw [h.match?_of_flagless hflagless] at hother
  rw [h.match?_remove hflagless, h.match?_of_flagless hflagless, without]
  refine findSome?_filter fun e m hfound he => bne_iff_ne.mpr ?_
  rw [← Entry.route_of_match? he]
  exact hother m hfound

theorem append_remove (h : t.InStep) (hc : c.Appends route)
    (hfresh : ∀ r ∈ t.routes, r.handle ≠ route.handle) :
    (t.run [c, .remove route]).2 = t := by
  have hkept : (t.routes.filter fun r => r.handle != route.handle) = t.routes :=
    List.filter_eq_self.mpr fun r hr => bne_iff_ne.mpr (hfresh r hr)
  obtain ⟨hcall, -⟩ := h.call c
  obtain ⟨hrun, hlimit, -⟩ := h.run [c, .remove route]
  refine hrun.eq_of_routes h ?_ hlimit
  rw [run_pair, hcall.routes_remove]
  -- A refused call leaves the table as it is, and nothing in it has the handle.
  by_cases hrefused : ∃ e, (t.call c).1 = .refused e
  · obtain ⟨e, he⟩ := hrefused
    rw [refused_same_of_inStep h c e he, hkept]
  · rw [h.routes_of_answered (not_exists.mp hrefused), hc.next_eq, List.filter_append, hkept]
    simp

theorem remove_comm (h : t.InStep) (r s : SharedRoute α) :
    (t.run [.remove r, .remove s]).2 = (t.run [.remove s, .remove r]).2 := by
  obtain ⟨hrs, hrsLimit, -⟩ := h.run [.remove r, .remove s]
  obtain ⟨hsr, hsrLimit, -⟩ := h.run [.remove s, .remove r]
  refine hrs.eq_of_routes hsr ?_ (hrsLimit.trans hsrLimit.symm)
  rw [run_pair, run_pair, (h.call _).1.routes_remove, (h.call _).1.routes_remove,
    h.routes_remove, h.routes_remove, List.filter_filter, List.filter_filter]
  simp only [Bool.and_comm]

end InStep

/-- Adding and removing routes changes the answers of a table without flags only where it should,
also where the switch changes its kind. -/
theorem changes_local (h : t.Reachable) (hflagless : ∀ r ∈ t.routes, r.Flagless) :
    t.ChangesLocally where
  append hc hroute hanswered := h.inStep.match?_append hflagless hc hroute hanswered
  remove_same route path hother := h.inStep.match?_remove_same hflagless hother
  remove_eq_some_iff route path m := by
    rw [h.inStep.match?_remove hflagless, Entry.findSome?_match?_eq_some_iff, without]
  append_remove hc hfresh := h.inStep.append_remove hc hfresh
  remove_comm := h.inStep.remove_comm

end Table

end Engine

attribute [local instance] Regex.Engine.counted

namespace Table

/-- A route goes from two places, and the one entry that is left fits in a set again. -/
theorem changes_local_crossing :
    ∃ r : Regex, Regex.compile {} "A" = .ok r ∧
      ∃ t : Table Nat,
        (Start.withLimit [⟨⟨.compiled r, 7⟩, 0⟩, ⟨⟨.compiled r, 8⟩, 1⟩, ⟨⟨.compiled r, 7⟩, 0⟩]
          200).table = .ok t ∧
        t.switch.isLinear = true ∧
        (t.call (.remove ⟨⟨.compiled r, 7⟩, 0⟩)).2.switch.isLinear = false ∧
        t.Reachable ∧ (∀ r ∈ t.routes, r.Flagless) ∧ t.ChangesLocally := by
  obtain ⟨r, hr⟩ : ∃ r : Regex, r = ⟨"A", {}, .set (.singleton 'A')⟩ := ⟨_, rfl⟩
  have hplain : r.Plain := by
    rw [hr]
    rfl
  obtain ⟨t, ht, hlinear, hset⟩ : ∃ t : Table Nat,
      (Start.withLimit [⟨⟨.compiled r, 7⟩, 0⟩, ⟨⟨.compiled r, 8⟩, 1⟩, ⟨⟨.compiled r, 7⟩, 0⟩]
        200).table = .ok t ∧ t.switch.isLinear = true ∧
        (t.call (.remove ⟨⟨.compiled r, 7⟩, 0⟩)).2.switch.isLinear = false := by
    rw [hr]
    exact ⟨_, rfl, rfl, rfl⟩
  have hreachable : t.Reachable := ⟨_, t, [], ht, rfl⟩
  have hflagless : ∀ route ∈ t.routes, route.Flagless := by
    rw [(inStep_table ht).2.1]
    simp [Start.routes, Route.Flagless, hplain]
  refine ⟨r, ?_, t, ht, hlinear, hset, hreachable, hflagless, changes_local hreachable hflagless⟩
  rw [hr]
  rfl

end Table

end TemplateRouter
