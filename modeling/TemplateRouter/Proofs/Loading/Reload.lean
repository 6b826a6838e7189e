import Mathlib.Data.List.Induction
import Mathlib.Data.List.Nodup
import TemplateRouter.Proofs.Loading.Selection
import TemplateRouter.Proofs.Table.Acceptance
/-
Following a directory: after any changes the table answers as one that is loaded afresh from the
last state of the directory that loads. What fails to load changes nothing.
-/
namespace TemplateRouter

section Sharing

variable {α : Type}

theorem handles_share (first : Nat) (routes : List (Route α)) :
    (share first routes).map SharedRoute.handle = List.range' first routes.length := by
  rw [share, List.map_map]
  exact List.zipIdx_map_snd first routes

theorem length_share (first : Nat) (routes : List (Route α)) :
    (share first routes).length = routes.length := by
  rw [share, List.length_map, List.length_zipIdx]

theorem handle_of_share {first : Nat} {r : SharedRoute α} {routes : List (Route α)}
    (h : r ∈ share first routes) : first ≤ r.handle ∧ r.handle < first + routes.length := by
  have hmem := List.mem_map_of_mem h (f := SharedRoute.handle)
  rw [handles_share, List.mem_range'_1] at hmem
  exact hmem

end Sharing

theorem template_of_share {dir : Bytes} {d : Directory} {first : Nat} {r : SharedRoute Served}
    (h : r ∈ share first (d.routes dir)) : ∃ template, r.pattern = .template template := by
  obtain ⟨s, hs⟩ := exists_served_of_mem_share h
  rw [hs]
  exact ⟨_, rfl⟩

section Engine

variable [Regex.Engine]

/-- Whether routes can stand in a table does not depend on their handles. -/
theorem exists_ofRoutes_share_iff {α : Type} {limit : Nat} (first : Nat) (routes : List (Route α)) :
    (∃ t, (Table.ofRoutes (share first routes) limit).value = .ok t) ↔
      ∀ r ∈ routes, r.Accepted limit := by
  rw [Table.exists_ofRoutes_iff]
  conv_rhs => rw [← toRoute_share first routes]
  rw [List.forall_mem_map]

variable {dir : Bytes} {listing : Listing} {d : Directory} {limit : Nat} {t : Table Served}

theorem Served.oversized_route_iff {s : Served} :
    s.route.Oversized limit ↔ Template.Oversized limit s.path := by
  simp [Route.Oversized, route]

theorem Served.accepted_route_iff {s : Served} :
    s.route.Accepted limit ↔ ¬ Template.Oversized limit s.path := by
  have hreadable : ¬ s.route.Unreadable := by simp [Route.Unreadable, route]
  rw [Route.Accepted, oversized_route_iff, and_iff_left hreadable]

theorem exists_loadTable_listed_iff :
    (∃ fresh, (loadTable dir (.ok d) limit).value = .ok fresh) ↔
      ∀ r ∈ d.routes dir, r.Accepted limit := by
  simp only [loadTable_listed_eq_ok_iff]
  exact exists_ofRoutes_share_iff 0 _

theorem exists_loadTable_iff :
    (∃ fresh, (loadTable dir listing limit).value = .ok fresh) ↔
      ∃ d, listing = .ok d ∧ ∀ s ∈ d.declared, ¬ Template.Oversized limit s.path := by
  cases listing with
  | error cause => simp [loadTable_eq_ok_iff]
  | ok d =>
    rw [exists_loadTable_listed_iff, Directory.routes_eq, List.forall_mem_map]
    simp only [Except.ok.injEq, exists_eq_left', Served.accepted_route_iff]

theorem exists_loadTable_of_listed (h : d.Pairwise fun a b => a.1 ≤ b.1)
    (hcompiles : ∀ s ∈ (d.filter Directory.isManifest).flatMap Directory.declaredIn,
      (Template.compile s.path limit).isOk) :
    ∃ fresh, (loadTable dir (.ok d) limit).value = .ok fresh := by
  rw [exists_loadTable_iff]
  refine ⟨d, rfl, ?_⟩
  rw [Directory.declared_of_listed h]
  intro s hs hover
  have hok := hcompiles s hs
  rw [hover] at hok
  cases hok

namespace Watch

variable {w : Watch}

/-- What a reload of a listed directory does: a fresh table of its routes is put in place, or there
is none and the table stays. -/
theorem value_reload_ok (w : Watch) (d : Directory) :
    (w.reload (.ok d)).value =
      match (Table.ofRoutes (share w.next (d.routes w.dir)) w.table.sizeLimit).value with
      | .error _ => (none, { w with next := w.next + (d.routes w.dir).length })
      | .ok fresh => (some (share w.next (d.routes w.dir)),
          { w with table := fresh, next := w.next + (d.routes w.dir).length }) := by
  simp only [reload, Told.value_bind, Noted.value_logged, value_loadRoutes, Table.value_replace,
    length_share]
  cases (Table.ofRoutes (share w.next (d.routes w.dir)) w.table.sizeLimit).value <;> rfl

theorem value_reload_congr {d d' : Directory} (h : d.routes w.dir = d'.routes w.dir) :
    (w.reload (.ok d)).value = (w.reload (.ok d')).value := by
  rw [value_reload_ok, value_reload_ok, h]

/-- A watch of a directory whose table has been loaded from it under a limit. -/
structure Sound (dir : Bytes) (limit : Nat) (w : Watch) : Prop where
  dir_eq : w.dir = dir
  sizeLimit_eq : w.table.sizeLimit = limit
  inStep : w.table.InStep
  templates : ∀ r ∈ w.table.routes, ∃ template, r.pattern = .template template
  handle_lt : ∀ r ∈ w.table.routes, r.handle < w.next

theorem sound_of_share {first : Nat}
    (h : (Table.ofRoutes (share first (d.routes dir)) limit).value = .ok t) :
    Sound dir limit ⟨dir, t, first + (d.routes dir).length⟩ := by
  obtain ⟨hstep, hroutes, hlimit⟩ := Table.ofRoutes_eq_ok_iff.mp h
  refine ⟨rfl, hlimit, hstep, ?_, ?_⟩
  · intro r hr
    rw [hroutes] at hr
    exact template_of_share hr
  · intro r hr
    rw [hroutes] at hr
    exact (handle_of_share hr).2

theorem sound_start (h : (loadTable dir listing limit).value = .ok t) :
    Sound dir limit (start dir t) := by
  obtain ⟨d, rfl, htable⟩ := loadTable_eq_ok_iff.mp h
  have hsound := sound_of_share htable
  have hsize : t.size = (d.routes dir).length := by
    obtain ⟨-, hroutes, -⟩ := Table.ofRoutes_eq_ok_iff.mp htable
    rw [← length_share 0, ← hroutes]
    exact (List.length_map _).symm
  rw [start, hsize, ← Nat.zero_add (d.routes dir).length]
  exact hsound

theorem loads_iff_share (first : Nat) :
    (∃ fresh, (loadTable dir (.ok d) limit).value = .ok fresh) ↔
      ∃ t, (Table.ofRoutes (share first (d.routes dir)) limit).value = .ok t := by
  rw [exists_loadTable_listed_iff, exists_ofRoutes_share_iff]

/-- All that a reload can do: count handles on and no more, or put a table of new routes in. -/
theorem Sound.reload_cases (h : Sound dir limit w) (listing : Listing) :
    ((∀ fresh, (loadTable dir listing limit).value ≠ .ok fresh) ∧
      ∃ next, w.next ≤ next ∧ (w.reload listing).value = (none, { w with next })) ∨
    ∃ d t, listing = .ok d ∧
      (Table.ofRoutes (share w.next (d.routes dir)) limit).value = .ok t ∧
      (w.reload listing).value = (some (share w.next (d.routes dir)),
        ⟨dir, t, w.next + (d.routes dir).length⟩) := by
  have hdir := h.dir_eq
  have hlimit := h.sizeLimit_eq
  subst hdir hlimit
  cases listing with
  | error cause =>
    -- Without a listing no handles are given out.
    left
    refine ⟨?_, w.next, Nat.le_refl _, rfl⟩
    intro fresh hfresh
    obtain ⟨d, hd, -⟩ := loadTable_eq_ok_iff.mp hfresh
    cases hd
  | ok d =>
    rw [value_reload_ok]
    cases ht : (Table.ofRoutes (share w.next (d.routes w.dir)) w.table.sizeLimit).value with
    | error e =>
      -- The refused routes have used up their handles.
      left
      refine ⟨?_, _, Nat.le_add_right _ _, rfl⟩
      intro fresh hfresh
      obtain ⟨t, ht'⟩ := (loads_iff_share w.next).mp ⟨fresh, hfresh⟩
      rw [ht] at ht'
      cases ht'
    | ok t => exact .inr ⟨d, t, rfl, ht, rfl⟩

theorem Sound.reload (h : Sound dir limit w) (listing : Listing) :
    Sound dir limit (w.reload listing).value.2 := by
  rcases h.reload_cases listing with ⟨-, next, hnext, hvalue⟩ | ⟨d, t, rfl, ht, hvalue⟩
  · rw [hvalue]
    refine ⟨h.dir_eq, h.sizeLimit_eq, h.inStep, h.templates, ?_⟩
    intro r hr
    exact Nat.lt_of_lt_of_le (h.handle_lt r hr) hnext
  · rw [hvalue]
    exact sound_of_share ht

theorem Sound.alike_of_load (h : Sound dir limit w) {fresh : Table Served}
    (hload : (loadTable dir listing limit).value = .ok fresh) :
    (w.reload listing).value.2.table.Alike fresh := by
  rcases h.reload_cases listing with ⟨hfails, -⟩ | ⟨d, t, rfl, ht, hvalue⟩
  · exact absurd hload (hfails fresh)
  · have hfresh := loadTable_listed_eq_ok_iff.mp hload
    have hsound := sound_of_share ht
    obtain ⟨-, hroutes, -⟩ := Table.ofRoutes_eq_ok_iff.mp ht
    obtain ⟨hstep, hroutes', -⟩ := Table.ofRoutes_eq_ok_iff.mp hfresh
    rw [hvalue]
    refine Table.alike_of_routes hsound.inStep hstep hsound.templates ?_
    rw [hroutes, hroutes', toRoute_share, toRoute_share]

/-- The listing that a signal comes with, if the directory has changed. -/
def Signal.listing? : Signal → Option Listing
  | .changed listing => some listing
  | .other | .failed _ => none

theorem Sound.receive (h : Sound dir limit w) (signal : Signal) :
    Sound dir limit (w.receive signal).value.2 := by
  cases signal with
  | changed listing => exact h.reload listing
  | other => exact h
  | failed error => exact h

theorem receive_of_unchanged {signal : Signal} (h : signal.listing? = none) :
    (w.receive signal).value = (none, w) := by
  cases signal with
  | changed listing => cases h
  | other => rfl
  | failed error => rfl

def follow (w : Watch) (signals : List Signal) : Watch :=
  signals.foldl (fun w signal => (w.receive signal).value.2) w

theorem follow_concat (w : Watch) (signals : List Signal) (signal : Signal) :
    w.follow (signals ++ [signal]) = ((w.follow signals).receive signal).value.2 := by
  rw [follow, List.foldl_append]
  rfl

theorem Sound.follow (h : Sound dir limit w) (signals : List Signal) :
    Sound dir limit (w.follow signals) := by
  induction signals generalizing w with
  | nil => exact h
  | cons signal signals ih => exact ih (h.receive signal)

/-- A table is like the one that the last listing which loads gives. -/
def FollowsLast (dir : Bytes) (limit : Nat) (listings : List Listing) (t : Table Served) : Prop :=
  ∃ before listing after fresh, listings = before ++ listing :: after ∧
    (loadTable dir listing limit).value = .ok fresh ∧
    (∀ l ∈ after, ∀ t, (loadTable dir l limit).value ≠ .ok t) ∧ t.Alike fresh

theorem FollowsLast.reload {listings : List Listing} {last : Listing} (h : Sound dir limit w)
    (hlast : FollowsLast dir limit listings w.table) :
    FollowsLast dir limit (listings ++ [last]) (w.reload last).value.2.table := by
  -- The last listing decides: if it loads it is the one followed, and if not the earlier one stays.
  by_cases hload : ∃ fresh, (loadTable dir last limit).value = .ok fresh
  · obtain ⟨fresh, hfresh⟩ := hload
    exact ⟨listings, last, [], fresh, rfl, hfresh, List.forall_mem_nil _, h.alike_of_load hfresh⟩
  · obtain ⟨before, l, after, fresh, rfl, hfresh, hafter, halike⟩ := hlast
    rcases h.reload_cases last with ⟨hfails, next, -, hvalue⟩ | ⟨d, t', rfl, ht', -⟩
    · refine ⟨before, l, after ++ [last], fresh, ?_, hfresh, ?_, ?_⟩
      · rw [List.append_assoc, List.cons_append]
      · exact List.forall_mem_append.mpr ⟨hafter, List.forall_mem_singleton.mpr hfails⟩
      · rw [hvalue]
        exact halike
    · exact absurd ((loads_iff_share _).mpr ⟨t', ht'⟩) hload

theorem followsLast_follow (h : (loadTable dir listing limit).value = .ok t)
    (signals : List Signal) :
    FollowsLast dir limit (listing :: signals.filterMap Signal.listing?)
      ((start dir t).follow signals).table := by
  induction signals using List.reverseRecOn with
  | nil => exact ⟨[], listing, [], t, rfl, h, List.forall_mem_nil _, ⟨rfl, fun _ => rfl⟩⟩
  | append_singleton signals last ih =>
    rw [follow_concat, List.filterMap_append]
    cases hlast : last.listing? with
    | none =>
      rw [receive_of_unchanged hlast, List.filterMap_cons_none hlast, List.filterMap_nil,
        List.append_nil]
      exact ih
    | some l =>
      cases last with
      | changed changed =>
        obtain rfl : changed = l := Option.some.inj hlast
        exact ih.reload ((sound_start h).follow signals)
      | other => cases hlast
      | failed error => cases hlast

/-- What a reload that succeeds hands on: the routes it has put in the table, in the order of a
fresh load, none of which the table had before. -/
structure Applied (w : Watch) (listing : Listing) (fresh : Table Served)
    (routes : List (SharedRoute Served)) : Prop where
  given : (w.reload listing).value.1 = some routes
  installed : (w.reload listing).value.2.table.routes = routes
  as_fresh : routes.map SharedRoute.toRoute = fresh.routes.map SharedRoute.toRoute
  answers : ∀ path m, (w.reload listing).value.2.table.match? path = some m → m.route ∈ routes
  distinct : (routes.map SharedRoute.handle).Nodup
  unused : ∀ old ∈ w.table.routes, ∀ new ∈ routes, old.handle ≠ new.handle

theorem Sound.applied (h : Sound dir limit w) {fresh : Table Served}
    (hload : (loadTable dir listing limit).value = .ok fresh) :
    ∃ routes, Applied w listing fresh routes := by
  rcases h.reload_cases listing with ⟨hfails, -⟩ | ⟨d, t, rfl, ht, hvalue⟩
  · exact absurd hload (hfails fresh)
  · obtain ⟨hstep, hroutes, -⟩ := Table.ofRoutes_eq_ok_iff.mp ht
    have hfresh := loadTable_listed_eq_ok_iff.mp hload
    obtain ⟨-, hroutes', -⟩ := Table.ofRoutes_eq_ok_iff.mp hfresh
    refine ⟨share w.next (d.routes dir), ?_, ?_, ?_, ?_, ?_, ?_⟩
    · rw [hvalue]
    · rw [hvalue]
      exact hroutes
    · rw [hroutes', toRoute_share, toRoute_share]
    · intro path m hm
      rw [hvalue] at hm
      obtain ⟨before, after, hsplit, -⟩ := hstep.match?_eq_some (sound_of_share ht).templates hm
      rw [← hroutes, hsplit]
      simp
    · rw [handles_share]
      exact List.nodup_range'
    · intro old hold new hnew
      have hlt := h.handle_lt old hold
      have hle := (handle_of_share hnew).1
      omega

/-- What a reload does with a table, by whether the directory loads afresh. -/
structure Reloads (dir : Bytes) (limit : Nat) (w : Watch) (listing : Listing) : Prop where
  loads_iff : (∃ fresh, (loadTable dir listing limit).value = .ok fresh) ↔
    ∃ d, listing = .ok d ∧ ∀ s ∈ d.declared, ¬ Template.Oversized limit s.path
  kept : (∀ fresh, (loadTable dir listing limit).value ≠ .ok fresh) →
    (w.reload listing).value.1 = none ∧ (w.reload listing).value.2.table = w.table
  applied : ∀ fresh, (loadTable dir listing limit).value = .ok fresh →
    ∃ routes, Applied w listing fresh routes
  without_broken : ∀ d, listing = .ok d →
    (w.reload (.ok (d.withoutBroken dir))).value = (w.reload listing).value

theorem Sound.reloads (h : Sound dir limit w) (listing : Listing) :
    Reloads dir limit w listing := by
  refine ⟨exists_loadTable_iff, ?_, fun _ hload => h.applied hload, ?_⟩
  · intro hfails
    rcases h.reload_cases listing with ⟨-, next, -, hvalue⟩ | ⟨d, t, rfl, ht, -⟩
    · rw [hvalue]
      exact ⟨rfl, rfl⟩
    · obtain ⟨fresh, hfresh⟩ := (loads_iff_share w.next).mpr ⟨t, ht⟩
      exact absurd hfresh (hfails fresh)
  · rintro d rfl
    apply value_reload_congr
    rw [h.dir_eq, Directory.routes_withoutBroken]

/-- Whatever the system tells of a directory, after each change the table is like one loaded afresh
from the last state of the directory that loads, and each further reload puts in all the routes or
none. -/
theorem follows_last_loadable (h : (loadTable dir listing limit).value = .ok t)
    (signals : List Signal) :
    FollowsLast dir limit (listing :: signals.filterMap Signal.listing?)
        ((start dir t).follow signals).table ∧
      ∀ l, Reloads dir limit ((start dir t).follow signals) l := by
  have hsound := (sound_start h).follow signals
  exact ⟨followsLast_follow h signals, hsound.reloads⟩

end Watch

end Engine

attribute [local instance] Regex.Engine.counted

namespace Watch

/-- With a directory that disappears, a failure to watch it, and a manifest that is no text when it
is back. -/
theorem follows_last_loadable_vanished :
    ∃ (d d' : Directory) (t : Table Served),
      d.map (fun file => Text.Utf8.decode? file.1) = [some "a.toml"] ∧
      d' = d ++ [(Text.Utf8.encode "b.json", .file (.bytes [255]))] ∧
      (loadTable [] (.ok d) 4096).value = .ok t ∧
      FollowsLast [] 4096 [.ok d, .error .missing, .ok d']
        ((start [] t).follow [.changed (.error .missing), .failed "", .changed (.ok d')]).table ∧
      Reloads [] 4096 ((start [] t).follow [.changed (.error .missing)]) (.ok d') := by
  let a : FileName × Item := (Text.Utf8.encode "a.toml",
    .file (.bytes (Text.Utf8.encode "[[routes]]\npath = '/{a}'\n")))
  obtain ⟨t, h⟩ : ∃ t, (loadTable [] (.ok [a]) 4096).value = .ok t :=
    exists_loadTable_of_listed (List.pairwise_singleton _ _) (by decide +kernel)
  exact ⟨[a], _, t, by decide +kernel, rfl, h,
    (follows_last_loadable h [.changed (.error .missing), .failed "", .changed (.ok _)]).1,
    (follows_last_loadable h _).2 _⟩

end Watch

end TemplateRouter
