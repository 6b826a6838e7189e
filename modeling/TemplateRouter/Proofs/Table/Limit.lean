import TemplateRouter.Proofs.First
import TemplateRouter.Proofs.Table.Lookup
import TemplateRouter.Regex
/-
What the size limit changes. Under two limits the same routes give the same entries, but a scan asks
each entry only for its own expression, and a set asks for the bare source as well. Their answers
differ where the first entry of the scan has flags without which its source does not match.
-/
namespace TemplateRouter

section Engine

variable [Regex.Engine] {α : Type} {limit₁ limit₂ : Nat}

/-- A route whose expression has no flags beside its source. All templates are such routes. -/
def Route.Flagless (route : Route α) : Prop := ∀ r, route.pattern = .compiled r → r.Plain

theorem Template.compile_unique {template : String} {c₁ c₂ : Compiled}
    (h₁ : compile template limit₁ = .ok c₁) (h₂ : compile template limit₂ = .ok c₂) : c₁ = c₂ := by
  rw [compile_eq] at h₁ h₂
  split at h₁
  · cases h₁
  · split at h₂
    · cases h₂
    · exact Except.ok.inj (h₁.symm.trans h₂)

namespace Entry

variable {route : SharedRoute α} {e₁ e₂ : Entry α}

theorem compile_unique (h₁ : compile route limit₁ = .ok e₁) (h₂ : compile route limit₂ = .ok e₂) :
    e₁ = e₂ := by
  cases hpattern : route.pattern with
  | compiled r =>
    rw [compile, hpattern] at h₁ h₂
    exact Except.ok.inj (h₁.symm.trans h₂)
  | template t =>
    rw [compile, hpattern] at h₁ h₂
    cases hc₁ : Template.compile t limit₁ with
    | error cause => simp [hc₁] at h₁
    | ok c₁ =>
      cases hc₂ : Template.compile t limit₂ with
      | error cause => simp [hc₂] at h₂
      | ok c₂ =>
        simp only [hc₁, Except.ok.injEq] at h₁
        simp only [hc₂, Except.ok.injEq] at h₂
        rw [← h₁, ← h₂, Template.compile_unique hc₁ hc₂]

theorem compileAll_unique {routes : List (SharedRoute α)} {es₁ es₂ : List (Entry α)}
    (h₁ : compileAll limit₁ routes = .ok es₁) (h₂ : compileAll limit₂ routes = .ok es₂) :
    es₁ = es₂ := by
  induction routes generalizing es₁ es₂ with
  | nil => exact Except.ok.inj (h₁.symm.trans h₂)
  | cons route routes ih =>
    obtain ⟨hmap₁, hall₁⟩ := compileAll_eq_ok_iff.mp h₁
    obtain ⟨hmap₂, hall₂⟩ := compileAll_eq_ok_iff.mp h₂
    obtain ⟨e₁, rest₁, rfl, rfl, hrest₁⟩ := List.map_eq_cons_iff.mp hmap₁
    obtain ⟨e₂, rest₂, rfl, he₂, hrest₂⟩ := List.map_eq_cons_iff.mp hmap₂
    rw [List.forall_mem_cons] at hall₁ hall₂
    have hhead : e₁ = e₂ := compile_unique hall₁.1 (he₂ ▸ hall₂.1)
    have hrest : rest₁ = rest₂ := ih (compileAll_eq_ok_iff.mpr ⟨hrest₁, hall₁.2⟩)
      (compileAll_eq_ok_iff.mpr ⟨hrest₂, hall₂.2⟩)
    rw [hhead, hrest]

end Entry

namespace Switch

variable {entries : List (Entry α)} {path : List Char} {e : Entry α} {c : Captured}

theorem findSome?_dispatch_eq_some_iff {linear : Bool} :
    entries.findSome? (dispatch linear path) = some (e, c) ↔
      IsFirst (fun e => e.Dispatches linear path) entries e ∧ e.regex.captures? path = some c := by
  have hfirst : IsFirst (fun e => (dispatch linear path e).isSome) entries e ↔
      IsFirst (fun e => e.Dispatches linear path) entries e := by
    refine IsFirst.congr fun d _ => ?_
    rw [Option.isSome_iff_ne_none, ne_eq, dispatch_eq_none_iff, not_not]
  rw [findSome?_eq_some_iff_isFirst]
  constructor
  · rintro ⟨d, hd, hdispatch⟩
    obtain ⟨rfl, -, hc⟩ := dispatch_eq_some_iff.mp hdispatch
    exact ⟨hfirst.mp hd, hc⟩
  · rintro ⟨he, hc⟩
    exact ⟨e, hfirst.mpr he, dispatch_eq_some_iff.mpr ⟨rfl, he.holds, hc⟩⟩

theorem dispatches_scan_iff : e.Dispatches true path ↔ e.regex.isMatch path := by
  simp [Entry.Dispatches]

theorem dispatches_set_iff :
    e.Dispatches false path ↔ e.sourceMatches path ∧ e.regex.isMatch path := by
  simp [Entry.Dispatches]

theorem isFirst_set_of_scan (h : IsFirst (fun e => e.Dispatches true path) entries e)
    (hsource : e.sourceMatches path) : IsFirst (fun e => e.Dispatches false path) entries e := by
  induction h with
  | head hown => exact .head (dispatches_set_iff.mpr ⟨hsource, dispatches_scan_iff.mp hown⟩)
  | tail hnot _ ih =>
    refine .tail ?_ (ih hsource)
    intro hset
    exact hnot (dispatches_scan_iff.mpr (dispatches_set_iff.mp hset).2)

/-- A scan and a set over entries that their routes determine find matches of the same route
exactly if the bare source of the entry the scan stops at matches too. -/
theorem scan_eq_set_iff {β : Type} {f : Entry α × Captured → β}
    (hf : ∀ e ∈ entries, ∀ e' ∈ entries, ∀ c c', f (e, c) = f (e', c') → e = e') :
    (entries.findSome? (dispatch true path)).map f =
        (entries.findSome? (dispatch false path)).map f ↔
      ∀ e, IsFirst (fun e => e.regex.isMatch path) entries e → e.sourceMatches path := by
  have hown (e : Entry α) : IsFirst (fun e => e.regex.isMatch path) entries e ↔
      IsFirst (fun e => e.Dispatches true path) entries e :=
    IsFirst.congr fun _ _ => dispatches_scan_iff.symm
  cases hscan : entries.findSome? (dispatch true path) with
  | none =>
    have hnone := List.findSome?_eq_none_iff.mp hscan
    have hset : entries.findSome? (dispatch false path) = none := by
      rw [List.findSome?_eq_none_iff]
      intro e he
      have hnot := dispatch_eq_none_iff.mp (hnone e he)
      rw [dispatches_scan_iff] at hnot
      exact dispatch_eq_none_iff.mpr fun hset => hnot (dispatches_set_iff.mp hset).2
    rw [hset]
    refine ⟨fun _ e he => ?_, fun _ => rfl⟩
    have hfirst := (hown e).mp he
    exact absurd hfirst.holds (dispatch_eq_none_iff.mp (hnone e hfirst.mem))
  | some found =>
    obtain ⟨e, c⟩ := found
    obtain ⟨hfirst, hc⟩ := findSome?_dispatch_eq_some_iff.mp hscan
    constructor
    · intro heq e' he'
      -- The scan stops at one entry only, and the set must then have found that one as well.
      have hunique : e' = e := ((hown e').mp he').unique hfirst
      subst hunique
      obtain ⟨⟨e'', c''⟩, hset, hsame⟩ := Option.map_eq_some_iff.mp heq.symm
      obtain ⟨hfirst'', -⟩ := findSome?_dispatch_eq_some_iff.mp hset
      have hsameEntry := hf e'' hfirst''.mem e' hfirst.mem c'' c hsame
      rw [← hsameEntry]
      exact (dispatches_set_iff.mp hfirst''.holds).1
    · intro hsource
      have hset := isFirst_set_of_scan hfirst (hsource e ((hown e).mpr hfirst))
      rw [findSome?_dispatch_eq_some_iff.mpr ⟨hset, hc⟩]

end Switch

namespace Table

variable {routes : List (SharedRoute α)} {t t₁ t₂ : Table α}

theorem registered_unique (h₁ : (ofRoutes routes limit₁).value = .ok t₁)
    (h₂ : (ofRoutes routes limit₂).value = .ok t₂) : t₁.registered = t₂.registered := by
  obtain ⟨hstep₁, hroutes₁, -⟩ := ofRoutes_eq_ok_iff.mp h₁
  obtain ⟨hstep₂, hroutes₂, -⟩ := ofRoutes_eq_ok_iff.mp h₂
  have hentries₁ := hstep₁.compileAll_eq
  have hentries₂ := hstep₂.compileAll_eq
  rw [hroutes₁] at hentries₁
  rw [hroutes₂] at hentries₂
  exact Entry.compileAll_unique hentries₁ hentries₂

theorem InStep.entry_of_route (h : t.InStep) :
    ∀ e ∈ t.registered, ∀ e' ∈ t.registered, e.route = e'.route → e = e' := by
  intro e he e' he' hroute
  have hcompiled := h.compiled e he
  rw [hroute] at hcompiled
  exact Entry.compile_unique hcompiled (h.compiled e' he')

theorem InStep.plain_of_flagless (h : t.InStep) (hflagless : ∀ r ∈ t.routes, r.Flagless) :
    ∀ e ∈ t.registered, e.regex.Plain := by
  intro e he
  have hcompiled := h.compiled e he
  cases hpattern : e.route.pattern with
  | template template => exact Template.regex_plain (Entry.compile_template hpattern hcompiled)
  | compiled r =>
    have hmem : e.route ∈ t.routes := by
      rw [h.routes_eq]
      exact List.mem_map_of_mem he
    rw [Entry.compile, hpattern, Except.ok.injEq] at hcompiled
    rw [← hcompiled]
    exact hflagless e.route hmem r hpattern

/-- Tables of the same entries answer a path alike exactly if both have the same kind of matcher, or
the first entry whose expression matches has a bare source that matches too. -/
theorem InStep.match?_eq_iff (h₁ : t₁.InStep) (h₂ : t₂.InStep)
    (hregistered : t₁.registered = t₂.registered) (path : String) :
    t₁.match? path = t₂.match? path ↔
      t₁.switch.isLinear = t₂.switch.isLinear ∨
        ∀ e, IsFirst (fun e => e.regex.isMatch path.toList) t₁.registered e →
          e.sourceMatches path.toList := by
  have hf : ∀ e ∈ t₁.registered, ∀ e' ∈ t₁.registered, ∀ c c',
      RouteMatch.ofCaptured e c = RouteMatch.ofCaptured e' c' → e = e' := by
    intro e he e' he' c c' hsame
    exact h₁.entry_of_route e he e' he' (congrArg RouteMatch.route hsame)
  rw [match?, match?, h₁.find?_eq, h₂.find?_eq, ← hregistered]
  cases t₁.switch.isLinear with
  | true =>
    cases t₂.switch.isLinear with
    | true => simp
    | false => simpa using Switch.scan_eq_set_iff hf
  | false =>
    cases t₂.switch.isLinear with
    | true => simpa using eq_comm.trans (Switch.scan_eq_set_iff hf)
    | false => simp

/-- When the same routes under two limits answer a path alike; without flags they always do. -/
theorem limits_agree_iff (h₁ : (ofRoutes routes limit₁).value = .ok t₁)
    (h₂ : (ofRoutes routes limit₂).value = .ok t₂) :
    (∀ path, t₁.match? path = t₂.match? path ↔
      t₁.switch.isLinear = t₂.switch.isLinear ∨
        ∀ e, IsFirst (fun e => e.regex.isMatch path.toList) t₁.registered e →
          e.sourceMatches path.toList) ∧
      ((∀ r ∈ routes, r.Flagless) → ∀ path, t₁.match? path = t₂.match? path) := by
  obtain ⟨hstep₁, hroutes₁, -⟩ := ofRoutes_eq_ok_iff.mp h₁
  obtain ⟨hstep₂, -, -⟩ := ofRoutes_eq_ok_iff.mp h₂
  have hiff := hstep₁.match?_eq_iff hstep₂ (registered_unique h₁ h₂)
  refine ⟨hiff, fun hflagless path => (hiff path).mpr (.inr ?_)⟩
  intro e he
  rw [← hroutes₁] at hflagless
  rw [Entry.sourceMatches_of_plain (hstep₁.plain_of_flagless hflagless e he.mem)]
  exact he.holds

end Table

end Engine

attribute [local instance] Regex.Engine.counted

namespace Table

/-- With a dot that matches line ends by a flag, and a path without one. -/
theorem limits_agree_iff_same_line :
    ∃ r : Regex, Regex.compile { dotMatchesNewLine := true } "." = .ok r ∧
      ∃ t₁ t₂ : Table Unit, (ofRoutes [⟨⟨.compiled r, ()⟩, 0⟩] 16).value = .ok t₁ ∧
        (ofRoutes [⟨⟨.compiled r, ()⟩, 0⟩] Template.defaultLimit).value = .ok t₂ ∧
        t₁.switch.isLinear = true ∧ t₂.switch.isLinear = false ∧
        t₁.match? "/" = t₂.match? "/" := by
  refine ⟨_, rfl, _, _, rfl, rfl, rfl, rfl, ?_⟩
  refine ((@limits_agree_iff _ Unit 16 Template.defaultLimit
    [⟨⟨.compiled ⟨".", { dotMatchesNewLine := true }, .set .any⟩, ()⟩, 0⟩] _ _
    rfl rfl).1 "/").mpr (.inr ?_)
  intro e he
  rw [List.mem_singleton.mp he.mem]
  decide +kernel

/-- The scan finds a line end, and the set does not. -/
theorem limit_changes_answer :
    ∃ r : Regex, Regex.compile { dotMatchesNewLine := true } "." = .ok r ∧
      ∃ t₁ t₂ : Table Unit, (ofRoutes [⟨⟨.compiled r, ()⟩, 0⟩] 16).value = .ok t₁ ∧
        (ofRoutes [⟨⟨.compiled r, ()⟩, 0⟩] Template.defaultLimit).value = .ok t₂ ∧
        (t₁.match? "\n").isSome = true ∧ (t₂.match? "\n").isSome = false := by
  refine ⟨_, rfl, _, _, rfl, rfl, ?_, ?_⟩ <;> decide +kernel

end Table

end TemplateRouter
