import TemplateRouter.Loading
import TemplateRouter.Proofs.Table.State
import TemplateRouter.Regex
/-
Runs of a table: calls one after the other do to it what they do to a plain list of shared routes.
-/
namespace TemplateRouter.Table

/-- The ways to make a table. The default one is empty. -/
inductive Start (α : Type) where
  | empty
  | ofNew (routes : List (Route α)) (first : Nat)
  | ofShared (routes : List (SharedRoute α))
  | withLimit (routes : List (SharedRoute α)) (limit : Nat)

namespace Start

variable [Regex.Engine] {α : Type}

def routes : Start α → List (SharedRoute α)
  | empty => []
  | ofNew routes first => share first routes
  | ofShared routes | withLimit routes _ => routes

def limit : Start α → Nat
  | empty | ofNew .. | ofShared _ => Template.defaultLimit
  | withLimit _ limit => limit

def table : Start α → Except RouteError (Table α)
  | empty => .ok Table.empty
  | ofNew routes first => (ofRoutes (share first routes) Template.defaultLimit).value
  | ofShared routes => (ofRoutes routes Template.defaultLimit).value
  | withLimit routes limit => (ofRoutes routes limit).value

end Start

/-- What can be asked of a table. A route that is not shared yet comes with the handle it gets. -/
inductive Call (α : Type) where
  | lookUp (path : String)
  | addNew (route : Route α) (handle : Nat)
  | add (route : SharedRoute α)
  | remove (route : SharedRoute α)
  | replace (routes : List (SharedRoute α))

/-- What a table answers. -/
inductive Reply (α : Type) where
  | found (m : Option (RouteMatch α))
  | shared (route : SharedRoute α)
  | done
  | removed (n : Nat)
  | refused (e : RouteError)

section Engine

variable [Regex.Engine] {α β : Type}

def Reply.ofResult (ok : β → Reply α) : Except RouteError β → Reply α
  | .ok b => ok b
  | .error e => .refused e

def call (t : Table α) : Call α → Reply α × Table α
  | .lookUp path => (.found (t.lookup path).value, t)
  | .addNew route handle =>
    ((t.add { route with handle }).value).map (.ofResult fun _ => .shared { route with handle }) id
  | .add route => ((t.add route).value).map (.ofResult fun _ => .done) id
  | .remove route => ((t.remove route).value).map (.ofResult .removed) id
  | .replace routes => ((t.replace routes).value).map (.ofResult fun _ => .done) id

def run (t : Table α) : List (Call α) → List (Reply α) × Table α
  | [] => ([], t)
  | c :: cs => ((t.call c).1 :: ((t.call c).2.run cs).1, ((t.call c).2.run cs).2)

namespace Call

def next (l : List (SharedRoute α)) : Call α → List (SharedRoute α)
  | .lookUp _ => l
  | .addNew route handle => l ++ [{ route with handle }]
  | .add route => l ++ [route]
  | .remove route => l.filter fun r => r.handle != route.handle
  | .replace routes => routes

/-- What a call answers if it succeeds and `fresh` is the table of the routes it leaves. -/
def answer (l : List (SharedRoute α)) (fresh : Table α) : Call α → Reply α
  | .lookUp path => .found (fresh.lookup path).value
  | .addNew route handle => .shared { route with handle }
  | .remove route => .removed (l.countP fun r => r.handle == route.handle)
  | .add _ | .replace _ => .done

/-- A call on a plain list of routes. It is refused, and the list stays, if the routes it would
leave have no table within the limit. -/
def onList (limit : Nat) (l : List (SharedRoute α)) (c : Call α) :
    Reply α × List (SharedRoute α) :=
  match (ofRoutes (c.next l) limit).value with
  | .error e => (.refused e, l)
  | .ok fresh => (c.answer l fresh, c.next l)

end Call

def runOnList (limit : Nat) (l : List (SharedRoute α)) :
    List (Call α) → List (Reply α) × List (SharedRoute α)
  | [] => ([], l)
  | c :: cs =>
    ((c.onList limit l).1 :: (runOnList limit (c.onList limit l).2 cs).1,
      (runOnList limit (c.onList limit l).2 cs).2)

/-- A table that holds a list of routes under a limit: both of its copies are that list, what can
be seen of it is said of the list, and the calls that change nothing leave it as it is. -/
structure Holds (t : Table α) (l : List (SharedRoute α)) (limit : Nat) : Prop where
  registered_eq : t.registered = t.switch.entries
  route_eq : t.registered.map Entry.route = l
  sizeLimit_eq : t.sizeLimit = limit
  routes_eq : t.routes = l
  size_eq : t.size = l.length
  isEmpty_eq : t.isEmpty = l.isEmpty
  patterns_eq : t.patterns = l.map fun r => r.pattern.text
  describe_eq : t.describe = "RouteTable \x7b patterns: " ++
    Text.Quoted.quoteList (l.map fun r => r.pattern.text) ++ ", size_limit: " ++ toString limit ++
    " \x7d"
  fresh : (ofRoutes l limit).value = .ok t
  lookUp_same (path : String) : (t.call (.lookUp path)).2 = t
  refused_same (c : Call α) (e : RouteError) : (t.call c).1 = .refused e → (t.call c).2 = t
  unregistered_same (route : SharedRoute α) :
    (∀ r ∈ l, r.handle ≠ route.handle) → t.call (.remove route) = (.removed 0, t)

theorem inStep_table {start : Start α} {t : Table α} (h : start.table = .ok t) :
    t.InStep ∧ t.routes = start.routes ∧ t.sizeLimit = start.limit := by
  cases start with
  | empty =>
    rw [Start.table, Except.ok.injEq] at h
    subst h
    exact ⟨inStep_empty, rfl, rfl⟩
  | ofNew routes first => exact ofRoutes_eq_ok_iff.mp h
  | ofShared routes => exact ofRoutes_eq_ok_iff.mp h
  | withLimit routes limit => exact ofRoutes_eq_ok_iff.mp h

variable {t : Table α}

/-- A call on a table in step: the next table is the one that the routes it leaves give afresh, and
without such a table it is refused. -/
theorem InStep.call_eq (h : t.InStep) (c : Call α) :
    t.call c =
      match (ofRoutes (c.next t.routes) t.sizeLimit).value with
      | .error e => (.refused e, t)
      | .ok fresh => (c.answer t.routes fresh, fresh) := by
  have hsame : (ofRoutes t.routes t.sizeLimit).value = .ok t :=
    ofRoutes_eq_ok_iff.mpr ⟨h, rfl, rfl⟩
  cases c with
  | lookUp path =>
    rw [Call.next, hsame]
    rfl
  | addNew route handle =>
    rw [call, h.value_add, Call.next]
    cases (ofRoutes (t.routes ++ [{ route with handle }]) t.sizeLimit).value <;> rfl
  | add route =>
    rw [call, h.value_add, Call.next]
    cases (ofRoutes (t.routes ++ [route]) t.sizeLimit).value <;> rfl
  | remove route =>
    rw [call, h.value_remove, Call.next]
    cases (ofRoutes (t.routes.filter fun r => r.handle != route.handle) t.sizeLimit).value <;> rfl
  | replace routes =>
    rw [call, value_replace, Call.next]
    cases (ofRoutes routes t.sizeLimit).value <;> rfl

theorem InStep.call (h : t.InStep) (c : Call α) :
    (t.call c).2.InStep ∧ (t.call c).2.sizeLimit = t.sizeLimit ∧
      ((t.call c).1, (t.call c).2.routes) = c.onList t.sizeLimit t.routes := by
  rw [h.call_eq, Call.onList]
  cases hfresh : (ofRoutes (c.next t.routes) t.sizeLimit).value with
  | error e => exact ⟨h, rfl, rfl⟩
  | ok fresh =>
    obtain ⟨hstep, hroutes, hlimit⟩ := ofRoutes_eq_ok_iff.mp hfresh
    exact ⟨hstep, hlimit, congrArg _ hroutes⟩

theorem InStep.run (h : t.InStep) (calls : List (Call α)) :
    (t.run calls).2.InStep ∧ (t.run calls).2.sizeLimit = t.sizeLimit ∧
      ((t.run calls).1, (t.run calls).2.routes) = runOnList t.sizeLimit t.routes calls := by
  induction calls generalizing t with
  | nil => exact ⟨h, rfl, rfl⟩
  | cons c cs ih =>
    obtain ⟨hstep, hlimit, hcall⟩ := h.call c
    obtain ⟨hrun, hrunLimit, hrest⟩ := ih hstep
    rw [hlimit] at hrunLimit hrest
    refine ⟨hrun, hrunLimit, ?_⟩
    rw [runOnList, ← hcall, ← hrest]
    rfl

/-- A table that some way to make one and some calls lead to. -/
def Reachable (t : Table α) : Prop :=
  ∃ (start : Start α) (made : Table α) (calls : List (Call α)),
    start.table = .ok made ∧ (made.run calls).2 = t

theorem Reachable.inStep (h : t.Reachable) : t.InStep := by
  obtain ⟨start, made, calls, hmade, rfl⟩ := h
  exact ((inStep_table hmade).1.run calls).1

theorem refused_same_of_inStep (h : t.InStep) (c : Call α) (e : RouteError)
    (hrefused : (t.call c).1 = .refused e) : (t.call c).2 = t := by
  rw [h.call_eq] at hrefused ⊢
  cases hfresh : (ofRoutes (c.next t.routes) t.sizeLimit).value with
  | error e => rfl
  | ok fresh =>
    rw [hfresh] at hrefused
    cases c <;> cases hrefused

theorem InStep.remove_unregistered (h : t.InStep) (route : SharedRoute α)
    (hnone : ∀ r ∈ t.routes, r.handle ≠ route.handle) :
    t.call (.remove route) = (.removed 0, t) := by
  have hnext : (Call.remove route).next t.routes = t.routes :=
    List.filter_eq_self.mpr fun r hr => bne_iff_ne.mpr (hnone r hr)
  have hcount : t.routes.countP (fun r => r.handle == route.handle) = 0 :=
    List.countP_eq_zero.mpr fun r hr hsame => hnone r hr (eq_of_beq hsame)
  have hsame : (ofRoutes t.routes t.sizeLimit).value = .ok t :=
    ofRoutes_eq_ok_iff.mpr ⟨h, rfl, rfl⟩
  rw [h.call_eq, hnext, hsame, ← hcount]
  rfl

theorem InStep.holds (h : t.InStep) : t.Holds t.routes t.sizeLimit where
  registered_eq := h.entries_eq.symm
  route_eq := h.routes_eq.symm
  sizeLimit_eq := rfl
  routes_eq := rfl
  size_eq := (List.length_map _).symm
  isEmpty_eq := by
    rw [isEmpty, size, Switch.size, routes]
    cases t.switch.entries <;> rfl
  patterns_eq := rfl
  describe_eq := rfl
  fresh := ofRoutes_eq_ok_iff.mpr ⟨h, rfl, rfl⟩
  lookUp_same _ := rfl
  refused_same := refused_same_of_inStep h
  unregistered_same := h.remove_unregistered

/-- A table made in any way and called any number of times answers as the plain list of its routes
does, and holds that list. -/
theorem run_refines_list {start : Start α} (h : start.table = .ok t) (calls : List (Call α)) :
    (t.run calls).1 = (runOnList start.limit start.routes calls).1 ∧
      (t.run calls).2.Holds (runOnList start.limit start.routes calls).2 start.limit := by
  obtain ⟨hstep, hroutes, hlimit⟩ := inStep_table h
  obtain ⟨hrun, hrunLimit, hlist⟩ := hstep.run calls
  have hholds := hrun.holds
  rw [hrunLimit] at hholds
  rw [← hroutes, ← hlimit, ← hlist]
  exact ⟨rfl, hholds⟩

end Engine

attribute [local instance] Regex.Engine.counted

/-- A route that stands twice goes from both places, and its equal under another handle stays. -/
theorem run_refines_list_twice :
    ∃ r : Regex, Regex.compile {} "A" = .ok r ∧
      ∃ t : Table Nat,
        (Start.withLimit [⟨⟨.compiled r, 7⟩, 0⟩, ⟨⟨.compiled r, 7⟩, 1⟩, ⟨⟨.compiled r, 7⟩, 0⟩]
          4096).table = .ok t ∧
        (t.run [.remove ⟨⟨.compiled r, 7⟩, 0⟩]).1 = [.removed 2] ∧
        (t.run [.remove ⟨⟨.compiled r, 7⟩, 0⟩]).2.Holds [⟨⟨.compiled r, 7⟩, 1⟩] 4096 := by
  refine ⟨_, rfl, _, rfl, ?_⟩
  exact @run_refines_list _ Nat _
    (.withLimit [⟨⟨.compiled ⟨"A", {}, .set (.singleton 'A')⟩, 7⟩, 0⟩,
      ⟨⟨.compiled ⟨"A", {}, .set (.singleton 'A')⟩, 7⟩, 1⟩,
      ⟨⟨.compiled ⟨"A", {}, .set (.singleton 'A')⟩, 7⟩, 0⟩] 4096) rfl
    [.remove ⟨⟨.compiled ⟨"A", {}, .set (.singleton 'A')⟩, 7⟩, 0⟩]

end TemplateRouter.Table
