import Mathlib.Tactic.Common
import TemplateRouter.Proofs.Template.Matching
import TemplateRouter.Regex
import TemplateRouter.Switch
/-
Dispatch: which entry a switch finds, whether it tries all sources at once or one after the other.
-/
namespace TemplateRouter

/-- An expression without flags: it is what its source alone means. -/
def Regex.Plain [Regex.Properties] (r : Regex) : Prop := Regex.compile {} r.source = .ok r

namespace Switch

variable {α : Type}

theorem hits_cons (r : Regex) (rs : List Regex) (path : List Char) :
    hits (r :: rs) path =
      (if r.isMatch path then [0] else []) ++ (hits rs path).map Nat.succ := by
  rw [hits, List.length_cons, List.range_succ_eq_map, List.filter_cons, List.filter_map]
  simp only [List.getElem?_cons_zero]
  split <;> rfl

theorem find?_empty (path : List Char) : (empty : Switch α).find? path = none := rfl

theorem findSome?_congr {β γ : Type} {l : List β} {f g : β → Option γ} (h : ∀ b ∈ l, f b = g b) :
    l.findSome? f = l.findSome? g := by
  induction l with
  | nil => rfl
  | cons b l ih =>
    rw [List.forall_mem_cons] at h
    rw [List.findSome?_cons, List.findSome?_cons, h.1, ih h.2]

end Switch

section Engine

variable [Regex.Engine]

namespace Entry

variable {α : Type}

def sourceMatches (entry : Entry α) (path : List Char) : Bool :=
  match Regex.compile {} entry.regex.source with
  | .ok r => r.isMatch path
  | .error _ => false

theorem sourceMatches_of_compile {entry : Entry α} {r : Regex}
    (h : Regex.compile {} entry.regex.source = .ok r) (path : List Char) :
    entry.sourceMatches path = r.isMatch path := by
  rw [sourceMatches, h]

theorem sourceMatches_of_plain {entry : Entry α} (h : entry.regex.Plain) (path : List Char) :
    entry.sourceMatches path = entry.regex.isMatch path :=
  sourceMatches_of_compile h path

/-- What a switch asks of an entry: that its expression matches, and unless the switch is linear,
that its bare source does as well. -/
def Dispatches (linear : Bool) (path : List Char) (entry : Entry α) : Prop :=
  (linear = false → entry.sourceMatches path) ∧ entry.regex.isMatch path

end Entry

namespace Switch

variable {α : Type} {entries : List (Entry α)} {limit : Nat} {s : Switch α}

theorem compileSources_cons {entry : Entry α} {sources : List Regex}
    (h : compileSources (entry :: entries) = .ok sources) :
    ∃ r rs, sources = r :: rs ∧ Regex.compile {} entry.regex.source = .ok r ∧
      compileSources entries = .ok rs := by
  rw [compileSources] at h
  cases hr : Regex.compile {} entry.regex.source with
  | error e => simp [hr, Except.bind] at h
  | ok r =>
    cases hrs : compileSources entries with
    | error e => simp [hr, hrs, Except.bind, Except.map] at h
    | ok rs =>
      simp only [hr, hrs, Except.bind, Except.map, Except.ok.injEq] at h
      exact ⟨r, rs, h.symm, rfl, rfl⟩

/-- A switch is built exactly if all sources compile without flags; its mode is a matter of size. -/
theorem build_eq_ok_iff :
    (build entries limit).value = .ok s ↔
      ∃ sources, compileSources entries = .ok sources ∧
        s = ⟨if Regex.Engine.setSize sources > limit then .linear else .combined sources,
          entries⟩ := by
  rw [build]
  cases hsources : compileSources entries with
  | error e => simp
  | ok sources =>
    by_cases hsize : Regex.Engine.setSize sources > limit
    · simp only [if_pos hsize, Told.value_bind, Told.value_pure, Except.ok.injEq,
        exists_eq_left']
      exact eq_comm
    · simp only [if_neg hsize, Told.value_pure, Except.ok.injEq, exists_eq_left']
      exact eq_comm

theorem entries_of_build (h : (build entries limit).value = .ok s) : s.entries = entries := by
  obtain ⟨sources, -, rfl⟩ := build_eq_ok_iff.mp h
  rfl

theorem findSome?_hits {β : Type} (f : Entry α → Option β) {sources : List Regex}
    (h : compileSources entries = .ok sources) (path : List Char) :
    ((hits sources path).findSome? fun i => entries[i]?.bind f) =
      entries.findSome? fun e => if e.sourceMatches path then f e else none := by
  induction entries generalizing sources with
  | nil =>
    simp only [compileSources, Except.ok.injEq] at h
    subst h
    rfl
  | cons e entries ih =>
    obtain ⟨r, rs, rfl, hr, hrs⟩ := compileSources_cons h
    rw [hits_cons, List.findSome?_append, List.findSome?_map, List.findSome?_cons,
      Entry.sourceMatches_of_compile hr, ← ih hrs]
    -- The hits behind the first source are those of the rest, counted from one on.
    have hshift : ((fun i => (e :: entries)[i]?.bind f) ∘ Nat.succ) =
        fun i => entries[i]?.bind f := rfl
    rw [hshift]
    cases r.isMatch path with
    | false => simp
    | true => cases hf : f e <;> simp [hf]

def dispatch (linear : Bool) (path : List Char) (entry : Entry α) : Option (Entry α × Captured) :=
  if linear || entry.sourceMatches path then capture path entry else none

theorem find?_of_build (h : (build entries limit).value = .ok s) (path : List Char) :
    s.find? path = entries.findSome? (dispatch s.isLinear path) := by
  obtain ⟨sources, hsources, rfl⟩ := build_eq_ok_iff.mp h
  by_cases hsize : Regex.Engine.setSize sources > limit
  · rw [if_pos hsize]
    rfl
  · rw [if_neg hsize]
    exact findSome?_hits (capture path) hsources path

theorem dispatch_eq_some_iff {linear : Bool} {path : List Char} {entry e : Entry α}
    {c : Captured} :
    dispatch linear path entry = some (e, c) ↔
      e = entry ∧ entry.Dispatches linear path ∧ entry.regex.captures? path = some c := by
  rw [dispatch, capture, Entry.Dispatches, Regex.isMatch]
  cases hcap : entry.regex.captures? path with
  | none => simp
  | some c' => cases linear <;> cases entry.sourceMatches path <;> simp [eq_comm (a := e)]

theorem dispatch_eq_none_iff {linear : Bool} {path : List Char} {entry : Entry α} :
    dispatch linear path entry = none ↔ ¬ entry.Dispatches linear path := by
  rw [dispatch, capture, Entry.Dispatches, Regex.isMatch]
  cases hcap : entry.regex.captures? path with
  | none => simp
  | some c => cases linear <;> simp

/-- A switch finds the first entry that it dispatches a path to, with the captures of the entry's
own expression. -/
structure FindsFirst (s : Switch α) (entries : List (Entry α)) (path : List Char) : Prop where
  eq_some_iff : ∀ e c, s.find? path = some (e, c) ↔
    ∃ before after, entries = before ++ e :: after ∧
      (∀ b ∈ before, ¬ b.Dispatches s.isLinear path) ∧ e.Dispatches s.isLinear path ∧
      e.regex.captures? path = some c
  eq_none_iff : s.find? path = none ↔ ∀ e ∈ entries, ¬ e.Dispatches s.isLinear path

theorem findsFirst_of_build (h : (build entries limit).value = .ok s) (path : List Char) :
    s.FindsFirst entries path := by
  constructor
  · intro e c
    rw [find?_of_build h, List.findSome?_eq_some_iff]
    constructor
    · rintro ⟨before, e', after, rfl, he, hbefore⟩
      obtain ⟨rfl, hdispatch, hc⟩ := dispatch_eq_some_iff.mp he
      exact ⟨before, after, rfl, fun b hb => dispatch_eq_none_iff.mp (hbefore b hb), hdispatch, hc⟩
    · rintro ⟨before, after, rfl, hbefore, hdispatch, hc⟩
      exact ⟨before, e, after, rfl, dispatch_eq_some_iff.mpr ⟨rfl, hdispatch, hc⟩,
        fun b hb => dispatch_eq_none_iff.mpr (hbefore b hb)⟩
  · rw [find?_of_build h, List.findSome?_eq_none_iff]
    exact forall₂_congr fun e _ => dispatch_eq_none_iff

theorem dispatch_of_plain {entry : Entry α} (h : entry.regex.Plain) (linear : Bool)
    (path : List Char) : dispatch linear path entry = capture path entry := by
  rw [dispatch, Entry.sourceMatches_of_plain h, capture, Regex.isMatch]
  cases linear <;> cases entry.regex.captures? path <;> rfl

/-- Without flags the bare sources say nothing new, and the mode of the switch does not matter. -/
theorem find?_of_plain (h : (build entries limit).value = .ok s)
    (hplain : ∀ e ∈ entries, e.regex.Plain) (path : List Char) :
    s.find? path = entries.findSome? (capture path) := by
  rw [find?_of_build h]
  exact findSome?_congr fun e he => dispatch_of_plain (hplain e he) s.isLinear path

theorem find?_build_nil (limit : Nat) (path : List Char) :
    ∃ s : Switch α, (build [] limit).value = .ok s ∧ s.find? path = none := by
  have hsources : compileSources ([] : List (Entry α)) = .ok [] := rfl
  have h := (@build_eq_ok_iff _ α [] limit _).mpr ⟨[], hsources, rfl⟩
  exact ⟨_, h, find?_of_build h path⟩

/-- What a built switch finds, whichever matcher it has got. -/
theorem build_dispatches (h : (build entries limit).value = .ok s) (path : List Char) :
    s.FindsFirst entries path ∧
      (empty : Switch α).find? path = none ∧
      (∀ limit', ∃ s' : Switch α, (build [] limit').value = .ok s' ∧ s'.find? path = none) ∧
      ((∀ e ∈ entries, e.regex.Plain) → ∀ limit' s', (build entries limit').value = .ok s' →
        s'.find? path = s.find? path ∧ s.find? path = entries.findSome? (capture path)) := by
  refine ⟨findsFirst_of_build h path, find?_empty path, fun limit' => find?_build_nil limit' path,
    ?_⟩
  intro hplain limit' s' h'
  rw [find?_of_plain h hplain, find?_of_plain h' hplain]
  exact ⟨rfl, rfl⟩

end Switch

end Engine

attribute [local instance] Regex.Engine.counted

namespace Switch

/-- With an entry that ignores case and stands before one that does not. -/
theorem build_dispatches_caseless :
    ∃ r₁ r₂ : Regex, Regex.compile { ignoreCase := true } "A" = .ok r₁ ∧
      Regex.compile {} "a" = .ok r₂ ∧
      ∃ s : Switch Unit, (build [⟨r₁, [], ⟨⟨.compiled r₁, ()⟩, 0⟩⟩,
          ⟨r₂, [], ⟨⟨.compiled r₂, ()⟩, 1⟩⟩] 4096).value = .ok s ∧
        s.isLinear = false ∧
        s.FindsFirst [⟨r₁, [], ⟨⟨.compiled r₁, ()⟩, 0⟩⟩, ⟨r₂, [], ⟨⟨.compiled r₂, ()⟩, 1⟩⟩]
          ['a'] := by
  refine ⟨_, _, rfl, rfl, _, rfl, rfl, ?_⟩
  exact (@build_dispatches _ Unit _ 4096 _ rfl ['a']).1

end Switch

end TemplateRouter
