import Mathlib.Tactic.Common
import TemplateRouter.Proofs.Switch.Dispatch
import TemplateRouter.Table
/-
What a table keeps: its entries are the routes compiled within its limit, and its switch is the
one built from them. A table in this state is the table that its routes would give afresh.
-/
namespace TemplateRouter

namespace Table

variable {α : Type}

def without (entries : List (Entry α)) (route : SharedRoute α) : List (Entry α) :=
  entries.filter fun e => e.route.handle != route.handle

theorem length_sub_without (entries : List (Entry α)) (route : SharedRoute α) :
    entries.length - (without entries route).length =
      (entries.map Entry.route).countP fun r => r.handle == route.handle := by
  have h := List.length_eq_countP_add_countP (fun e : Entry α => e.route.handle == route.handle)
    (l := entries)
  have hwithout : (without entries route).length =
      entries.countP fun e => ¬ (e.route.handle == route.handle) = true := by
    rw [List.countP_eq_length_filter, without]
    congr 2
    funext e
    by_cases he : e.route.handle = route.handle <;> simp [he]
  rw [List.countP_map]
  simp only [Function.comp_def]
  omega

end Table

variable [Regex.Engine]

namespace Entry

variable {α : Type} {limit : Nat} {route : SharedRoute α} {routes : List (SharedRoute α)}
  {entry : Entry α} {entries : List (Entry α)}

theorem route_of_compile (h : compile route limit = .ok entry) : entry.route = route := by
  unfold compile at h
  split at h
  · split at h
    · rw [Except.ok.injEq] at h
      rw [← h]
    · cases h
  · rw [Except.ok.injEq] at h
    rw [← h]

theorem compileAll_eq_ok_iff :
    compileAll limit routes = .ok entries ↔
      entries.map Entry.route = routes ∧ ∀ e ∈ entries, compile e.route limit = .ok e := by
  induction routes generalizing entries with
  | nil =>
    rw [compileAll, Except.ok.injEq]
    constructor
    · rintro rfl
      exact ⟨rfl, by simp⟩
    · rintro ⟨h, -⟩
      exact (List.map_eq_nil_iff.mp h).symm
  | cons route routes ih =>
    rw [compileAll]
    constructor
    · intro h
      cases hroute : compile route limit with
      | error e => simp [hroute, Except.bind] at h
      | ok entry =>
        cases hroutes : compileAll limit routes with
        | error e => simp [hroute, hroutes, Except.bind, Except.map] at h
        | ok rest =>
          simp only [hroute, hroutes, Except.bind, Except.map, Except.ok.injEq] at h
          subst h
          obtain ⟨hmap, hrest⟩ := ih.mp hroutes
          have hentry := route_of_compile hroute
          refine ⟨by rw [List.map_cons, hentry, hmap], ?_⟩
          rw [List.forall_mem_cons, hentry]
          exact ⟨hroute, hrest⟩
    · rintro ⟨hmap, hall⟩
      cases entries with
      | nil => cases hmap
      | cons entry rest =>
        rw [List.map_cons, List.cons.injEq] at hmap
        rw [List.forall_mem_cons] at hall
        rw [← hmap.1, hall.1, Except.bind, ih.mpr ⟨hmap.2, hall.2⟩, Except.map]

theorem compileAll_concat (limit : Nat) (routes : List (SharedRoute α)) (route : SharedRoute α) :
    compileAll limit (routes ++ [route]) =
      (compileAll limit routes).bind fun entries =>
        (compile route limit).map fun entry => entries ++ [entry] := by
  induction routes with
  | nil =>
    rw [List.nil_append, compileAll, compileAll, Except.bind]
    cases compile route limit <;> rfl
  | cons first rest ih =>
    rw [List.cons_append, compileAll, compileAll, ih]
    cases compile first limit with
    | error e => rfl
    | ok entry =>
      cases compileAll limit rest with
      | error e => rfl
      | ok entries => cases compile route limit <;> rfl

end Entry

namespace Table

variable {α : Type} {t t' : Table α} {entries : List (Entry α)} {limit : Nat}
  {routes : List (SharedRoute α)}

theorem entries_of_buildSwitch {s : Switch α} (h : (buildSwitch entries limit).value = .ok s) :
    s.entries = entries := by
  unfold buildSwitch at h
  split at h
  · next hnil =>
    rw [Told.value_pure, Except.ok.injEq] at h
    rw [← h, List.isEmpty_iff.mp hnil]
    rfl
  · exact Switch.entries_of_build h

/-- The entries are what the routes compile to, and the switch is built from them. -/
structure InStep (t : Table α) : Prop where
  compiled : ∀ e ∈ t.registered, Entry.compile e.route t.sizeLimit = .ok e
  switched : (buildSwitch t.registered t.sizeLimit).value = .ok t.switch

theorem InStep.entries_eq (h : t.InStep) : t.switch.entries = t.registered :=
  entries_of_buildSwitch h.switched

theorem InStep.routes_eq (h : t.InStep) : t.routes = t.registered.map Entry.route := by
  rw [routes, h.entries_eq]

theorem inStep_empty : (empty : Table α).InStep := ⟨by simp [empty], rfl⟩

theorem InStep.compileAll_eq (h : t.InStep) :
    Entry.compileAll t.sizeLimit t.routes = .ok t.registered :=
  Entry.compileAll_eq_ok_iff.mpr ⟨h.routes_eq.symm, h.compiled⟩

theorem value_ofRoutes (routes : List (SharedRoute α)) (limit : Nat) :
    (ofRoutes routes limit).value =
      (Entry.compileAll limit routes).bind fun entries =>
        (buildSwitch entries limit).value.map fun s => ⟨entries, s, limit⟩ := by
  rw [ofRoutes]
  cases Entry.compileAll limit routes with
  | error e => rfl
  | ok entries =>
    rw [Told.value_bind, Except.bind]
    cases (buildSwitch entries limit).value <;> rfl

theorem events_build (entries : List (Entry α)) (limit : Nat) :
    (Switch.build entries limit).events =
      match (Switch.build entries limit).value with
      | .ok s => if s.isLinear then [.fallbackToLinear entries.length limit] else []
      | .error _ => [] := by
  rw [Switch.build]
  cases Switch.compileSources entries with
  | error e => rfl
  | ok sources =>
    dsimp only
    split <;> rfl

theorem events_buildSwitch (entries : List (Entry α)) (limit : Nat) :
    (buildSwitch entries limit).events =
      match (buildSwitch entries limit).value with
      | .ok s => if s.isLinear then [.fallbackToLinear entries.length limit] else []
      | .error _ => [] := by
  rw [buildSwitch]
  split
  · rfl
  · exact events_build entries limit

/-- What is told of a table when it is made: that it scans, if it does, and then what it holds. -/
def madeEvents (t : Table α) : List Event :=
  (if t.switch.isLinear then [.fallbackToLinear t.size t.sizeLimit] else []) ++
    [.tableBuilt t.size (t.patterns.take 10)]

theorem events_ofRoutes (routes : List (SharedRoute α)) (limit : Nat) :
    (ofRoutes routes limit).events =
      match (ofRoutes routes limit).value with
      | .ok t => t.madeEvents
      | .error _ => [] := by
  rw [ofRoutes]
  cases Entry.compileAll limit routes with
  | error e => rfl
  | ok entries =>
    dsimp only
    rw [Told.events_bind, Told.value_bind, events_buildSwitch]
    cases hswitch : (buildSwitch entries limit).value with
    | error e => rfl
    | ok s =>
      have hentries := entries_of_buildSwitch hswitch
      subst hentries
      simp only [madeEvents, size, Switch.size, patterns, Table.routes, summary, List.map_map,
        List.map_take, Told.events_bind, Told.events_emit, Told.events_pure, Told.value_bind,
        Told.value_pure, List.append_nil]
      rfl

/-- A table in step is the one that its routes give afresh within its limit. -/
theorem ofRoutes_eq_ok_iff :
    (ofRoutes routes limit).value = .ok t ↔
      t.InStep ∧ t.routes = routes ∧ t.sizeLimit = limit := by
  rw [value_ofRoutes]
  constructor
  · intro h
    cases hentries : Entry.compileAll limit routes with
    | error e => simp [hentries, Except.bind] at h
    | ok entries =>
      cases hs : (buildSwitch entries limit).value with
      | error e => simp [hentries, hs, Except.bind, Except.map] at h
      | ok s =>
        simp only [hentries, hs, Except.bind, Except.map, Except.ok.injEq] at h
        subst h
        obtain ⟨hmap, hall⟩ := Entry.compileAll_eq_ok_iff.mp hentries
        have hstep : InStep ⟨entries, s, limit⟩ := ⟨hall, hs⟩
        exact ⟨hstep, by rw [hstep.routes_eq, hmap], rfl⟩
  · rintro ⟨h, rfl, rfl⟩
    rw [h.compileAll_eq, Except.bind, h.switched]
    rfl

/-- The next table is a fresh one, or the old one if there is no fresh one. -/
def takeOver (t : Table α) : Except RouteError (Table α) → Except RouteError Unit × Table α
  | .error e => (.error e, t)
  | .ok fresh => (.ok (), fresh)

theorem value_install (t : Table α) (entries : List (Entry α)) (done : Event) :
    (t.install entries done).value =
      t.takeOver ((buildSwitch entries t.sizeLimit).value.map fun s =>
        ⟨entries, s, t.sizeLimit⟩) := by
  rw [install, Told.value_bind]
  cases (buildSwitch entries t.sizeLimit).value <;> rfl

theorem value_replace (t : Table α) (routes : List (SharedRoute α)) :
    (t.replace routes).value = t.takeOver (ofRoutes routes t.sizeLimit).value := by
  rw [replace, value_ofRoutes]
  cases Entry.compileAll t.sizeLimit routes with
  | error e => rfl
  | ok entries => exact value_install t entries _

theorem InStep.value_add (h : t.InStep) (route : SharedRoute α) :
    (t.add route).value = t.takeOver (ofRoutes (t.routes ++ [route]) t.sizeLimit).value := by
  rw [add, value_ofRoutes, Entry.compileAll_concat, h.compileAll_eq]
  cases Entry.compile route t.sizeLimit with
  | error e => rfl
  | ok entry => exact value_install t (t.registered ++ [entry]) _

theorem InStep.compileAll_without (h : t.InStep) (route : SharedRoute α) :
    Entry.compileAll t.sizeLimit (t.routes.filter fun r => r.handle != route.handle) =
      .ok (without t.registered route) := by
  refine Entry.compileAll_eq_ok_iff.mpr ⟨?_, ?_⟩
  · rw [h.routes_eq, List.filter_map]
    rfl
  · intro e he
    exact h.compiled e (List.mem_filter.mp he).1

theorem InStep.value_remove (h : t.InStep) (route : SharedRoute α) :
    (t.remove route).value =
      (t.takeOver (ofRoutes (t.routes.filter fun r => r.handle != route.handle)
        t.sizeLimit).value).map
        (Except.map fun _ => t.routes.countP fun r => r.handle == route.handle) id := by
  have hcount := length_sub_without t.registered route
  rw [value_ofRoutes, h.compileAll_without, h.routes_eq, ← hcount]
  simp only [remove]
  split
  · next hnone =>
    -- Nothing is dropped, so the entries that are left are all the entries.
    have hall : without t.registered route = t.registered :=
      (List.filter_sublist).eq_of_length_le (Nat.sub_eq_zero_iff_le.mp hnone)
    rw [hall, Except.bind, h.switched, Nat.sub_self]
    rfl
  · rw [Told.value_bind]
    exact congrArg (Prod.map _ id) (value_install t (without t.registered route) _)

end Table

end TemplateRouter
