import TemplateRouter.Proofs.Regex.Attempt
import TemplateRouter.Proofs.Template.Decomposition
import TemplateRouter.Proofs.Template.Expression
import TemplateRouter.Regex
/-
Matching a template: the search in its tree finds the greedy reading of a path, and nothing else.
-/
namespace TemplateRouter.Template

open Regex

/-- The tokens behind the placeholder with a number. -/
def follow : List Token → Nat → List Token
  | [], _ => []
  | .char _ :: ts, k => follow ts k
  | .placeholder _ :: ts, 0 => ts
  | .placeholder _ :: ts, k + 1 => follow ts k

/-- The choices of a template that fail on a text. A placeholder takes three places, and its choice
is whether to go on after its first character. -/
def spent (ts : List Token) (text : List Char) : Choices := fun e =>
  extend (split (follow ts (e.1 / 3))) (text.drop (text.length - e.2)) = none

/-- The groups that a reading fills: the values in order, the last one first. -/
def spans (i : Nat) : List Token → List (List Char) → List Char → Groups → Groups
  | [], _, _, gs => gs
  | .char _ :: ts, vs, text, gs => spans i ts vs text.tail gs
  | .placeholder _ :: _, [], _, gs => gs
  | .placeholder _ :: ts, v :: vs, text, gs =>
    spans (i + 1) ts vs (text.drop v.length) ((i, ⟨text, text.drop v.length⟩) :: gs)

theorem extend_map {β γ : Type} (k : List Char → Option β) (f : List Char × β → γ) (c : Char)
    (text : List Char) :
    (extend k (c :: text)).map f =
      ((if c = '/' then none else extend k text).map fun (v, b) => f (c :: v, b)).or
        ((k (c :: text)).map fun b => f ([], b)) := by
  rw [extend, Option.map_or, Option.map_map, Option.map_map]
  rfl

section Loop

variable {α β : Type} {dead : Choices} {whole : List Char} {place : Nat}
  {k : List Char → Option β} {out : List Char → Groups → β → α} {next : Continuation α}

/-- What comes behind a placeholder does what `k` says, wherever nothing stands in its way. -/
def Follows (dead : Choices) (whole : List Char) (place : Nat) (k : List Char → Option β)
    (out : List Char → Groups → β → α) (next : Continuation α) : Prop :=
  ∀ (cur : Cursor) (gs : Groups) (made : Made), cur.rest <:+ whole →
    Clear dead made place cur.left →
    Yields dead made (next cur gs) ((k cur.rest).map (out cur.rest gs))

theorem yields_again (hnext : Follows dead whole (place + 1) k out next)
    (hdead : ∀ s, s <:+ whole → (dead (place, s.length) ↔ extend k s = none))
    (n : Nat) (cur : Cursor) (gs : Groups) (made : Made) (hn : cur.rest.length < n)
    (hsuffix : cur.rest <:+ whole) (hclear : Clear dead made place cur.left) :
    Yields dead made
      (Walk.again true place ((Node.set (.compl (.singleton '/'))).run (place + 1)) next n cur gs)
      ((extend k cur.rest).map fun (v, b) => out (cur.rest.drop v.length) gs b) := by
  induction n generalizing cur made with
  | zero => omega
  | succ n ih =>
    obtain ⟨before, rest, left, rfl⟩ := cur
    have hleave : ∀ made', Grows dead (made.insert (place, rest.length)) made' →
        Yields dead made' (next ⟨before, rest, rest.length, rfl⟩ gs)
          ((k rest).map (out rest gs)) := by
      intro made' hg
      exact hnext _ gs made' hsuffix ((hclear.insert_later (Nat.lt_succ_self place)).grows hg)
    -- The choice is marked before it is tried, so what it leads to runs with the mark.
    refine Yields.once hclear ?_ ?_
    · rw [hdead rest hsuffix, Option.map_eq_none_iff]
    cases rest with
    | nil =>
      have hr : ((extend k []).map fun (v, b) => out (List.drop v.length []) gs b) =
          (none : Option α).or ((k []).map (out [] gs)) := by
        simp [extend, Function.comp_def]
      rw [hr]
      exact Yields.orElse yields_fail hleave
    | cons c rest =>
      rw [extend_map]
      refine Yields.orElse ?_ hleave
      by_cases hc : c = '/'
      · simpa [Node.run, Cursor.next?, CharSet.contains, hc] using yields_fail
      · have hshort : Clear dead (made.insert (place, (c :: rest).length)) place rest.length :=
          hclear.insert_shorter (Nat.lt_succ_self _)
        have h := ih ⟨some c, rest, rest.length, rfl⟩ _ (by simpa using hn)
          ((List.suffix_cons c rest).trans hsuffix) hshort
        simpa [Node.run, Cursor.next?, CharSet.contains, hc, Ne.symm hc] using h

theorem Follows.mono {place' : Nat} (h : Follows dead whole place' k out next)
    (hp : place ≤ place') : Follows dead whole place k out next :=
  fun cur gs made hsuffix hclear => h cur gs made hsuffix (hclear.mono hp (Nat.le_refl _))

/-- A placeholder takes one character and then what the loop takes, and notes the stretch. -/
theorem yields_placeholder (i : Nat) (hnext : Follows dead whole (place + 1) k out next)
    (hdead : ∀ s, s <:+ whole → (dead (place, s.length) ↔ extend k s = none))
    (before : Option Char) (c : Char) (rest : List Char) (gs : Groups) (made : Made)
    (hsuffix : c :: rest <:+ whole) (hclear : Clear dead made place (c :: rest).length)
    (hc : c ≠ '/') :
    Yields dead made ((Node.group i segmentNode).run place next ⟨before, c :: rest, _, rfl⟩ gs)
      ((extend k rest).map fun (v, b) =>
        out (rest.drop v.length) ((i, ⟨c :: rest, rest.drop v.length⟩) :: gs) b) := by
  let noted : Continuation α := fun stop gs => next stop ((i, ⟨c :: rest, stop.rest⟩) :: gs)
  let outNoted : List Char → Groups → β → α := fun r gs b =>
    out r ((i, ⟨c :: rest, r⟩) :: gs) b
  have hnoted : Follows dead whole (place + 1) k outNoted noted :=
    fun cur gs made hs hcl => hnext cur _ made hs hcl
  have h := yields_again hnoted hdead ((c :: rest).length + 1) ⟨some c, rest, rest.length, rfl⟩ gs
    made (Nat.lt_succ_of_lt (Nat.lt_succ_self _)) ((List.suffix_cons c rest).trans hsuffix)
    (hclear.mono (Nat.le_refl _) (Nat.le_succ _))
  simpa [Node.run, segmentNode, Walk.exactly, Walk.plus, Cursor.next?, CharSet.contains,
    Ne.symm hc] using h

end Loop

theorem run_remainder_char {α : Type} (i : Nat) (c : Char) (ts : List Token) (place : Nat)
    (next : Continuation α) :
    (remainder i (.char c :: ts)).run place next =
      (Node.set (.singleton c)).run place ((remainder i ts).run place next) :=
  Node.run_ofParts_cons _ _ place next

theorem run_remainder_placeholder {α : Type} (i : Nat) (name : List Char) (ts : List Token)
    (place : Nat) (next : Continuation α) :
    (remainder i (.placeholder name :: ts)).run place next =
      (Node.group i segmentNode).run place ((remainder (i + 1) ts).run (place + 3) next) :=
  Node.run_ofParts_cons _ _ place next

theorem spent_iff {ts₀ ts : List Token} {whole s : List Char} {p : Nat} (hts : ts = follow ts₀ p)
    (hs : s <:+ whole) : spent ts₀ whole (3 * p, s.length) ↔ extend (split ts) s = none := by
  have hp : 3 * p / 3 = p := by omega
  rw [spent, hp, ← hts, ← List.suffix_iff_eq_drop.mp hs]

theorem follows_remainder (ts₀ : List Token) (whole start : List Char) (ts : List Token)
    (i p : Nat) (hfollow : ∀ j, follow ts j = follow ts₀ (p + j)) :
    Follows (spent ts₀ whole) whole (3 * p) (split ts)
      (fun rest gs vs => (Stretch.mk start [], spans i ts vs rest gs))
      ((remainder i ts).run (3 * p) fun stop gs => Attempt.done (⟨start, stop.rest⟩, gs)) := by
  induction ts generalizing i p with
  | nil =>
    intro cur gs made _ _
    obtain ⟨before, rest, left, rfl⟩ := cur
    cases rest with
    | nil => exact yields_done _
    | cons c rest => exact yields_fail
  | cons t ts ih =>
    intro cur gs made hsuffix hclear
    obtain ⟨before, rest, left, rfl⟩ := cur
    cases t with
    | char c =>
      rw [run_remainder_char]
      cases rest with
      | nil => exact yields_fail
      | cons x rest =>
        by_cases hx : x = c
        · have h := ih i p hfollow ⟨some x, rest, rest.length, rfl⟩ gs made
            ((List.suffix_cons x rest).trans hsuffix) (hclear.mono (Nat.le_refl _) (Nat.le_succ _))
          simpa [Node.run, Cursor.next?, hx, split, spans] using h
        · simpa [Node.run, Cursor.next?, Ne.symm hx, hx, split] using yields_fail
    | placeholder name =>
      rw [run_remainder_placeholder]
      cases rest with
      | nil => exact yields_fail
      | cons x rest =>
        by_cases hx : x = '/'
        · simpa [Node.run, segmentNode, Walk.exactly, Walk.plus, Cursor.next?, CharSet.contains, hx,
            split] using yields_fail
        · have hbehind : ∀ j, follow ts j = follow ts₀ (p + 1 + j) := by
            intro j
            rw [Nat.add_assoc, Nat.add_comm 1 j]
            exact hfollow (j + 1)
          have hnext := (ih (i + 1) (p + 1) hbehind).mono
            (show 3 * p + 1 ≤ 3 * (p + 1) by omega)
          have hdead : ∀ s, s <:+ whole →
              (spent ts₀ whole (3 * p, s.length) ↔ extend (split ts) s = none) :=
            fun s hs => spent_iff (hfollow 0) hs
          have h := yields_placeholder i hnext hdead before x rest gs made hsuffix hclear hx
          simpa [split, hx, spans, Function.comp_def, Nat.mul_succ] using h

/-- The search of a template's tree is its split. -/
theorem search_tree (ts : List Token) (path : List Char) :
    (tree ts).search {} (.ofText path) =
      (split ts path).map fun vs => (⟨path, []⟩, spans 1 ts vs path []) := by
  rw [tree, Node.search_anchored, Node.matchAt, Node.run_ofParts_cons]
  have hfollows := follows_remainder ts path path ts 1 0 fun j => by rw [Nat.zero_add]
  have h := hfollows (.ofText path) [] {} List.suffix_rfl (.empty _ _)
  exact h.value_eq

theorem max_groupCount_remainder (i : Nat) (ts : List Token) :
    max i (remainder (i + 1) ts).groupCount = i + (names ts).length := by
  induction ts generalizing i with
  | nil => exact Nat.max_zero i
  | cons t ts ih =>
    have hrest := ih i
    have hnext := ih (i + 1)
    simp only [remainder] at hrest hnext
    cases t with
    | char c =>
      simpa [remainder, atoms, Node.groupCount_ofParts_cons, Node.groupCount] using hrest
    | placeholder name =>
      simp only [remainder, atoms, List.cons_append, Node.groupCount_ofParts_cons,
        Node.groupCount, segmentNode, names_placeholder, List.length_cons]
      omega

theorem groupCount_tree (ts : List Token) : (tree ts).groupCount = (names ts).length := by
  have h := max_groupCount_remainder 0 ts
  rw [remainder, Nat.zero_add] at h
  rw [tree, Node.groupCount_ofParts_cons, Node.groupCount]
  simpa using h

theorem lookup_spans_of_lt {key i : Nat} (ts : List Token) (vs : List (List Char))
    (text : List Char) (gs : Groups) (h : key < i) :
    (spans i ts vs text gs).lookup key = gs.lookup key := by
  fun_induction spans i ts vs text gs with
  | case1 => rfl
  | case2 i c ts vs text gs ih => exact ih h
  | case3 => rfl
  | case4 i name ts v vs text gs ih =>
    have hne : (key == i) = false := by simpa using Nat.ne_of_lt h
    rw [ih (Nat.lt_succ_of_lt h), List.lookup_cons, hne]

theorem map_lookup_spans (i : Nat) {ts : List Token} {path : List Char} {vs : List (List Char)}
    (gs : Groups) (h : Decomposes ts path vs) :
    ((List.range' i vs.length).map fun j =>
      ((spans i ts vs path gs).lookup j).map Stretch.text) = vs.map some := by
  induction ts generalizing i path vs gs with
  | nil =>
    obtain ⟨rfl, -⟩ := decomposes_nil_iff.mp h
    rfl
  | cons t ts ih =>
    cases t with
    | char c =>
      obtain ⟨rest, rfl, hrest⟩ := decomposes_char_iff.mp h
      exact ih i gs hrest
    | placeholder name =>
      obtain ⟨v, rest, ws, rfl, rfl, -, hrest⟩ := decomposes_placeholder_iff.mp h
      have hbehind := ih (i + 1) ((i, ⟨v ++ rest, rest⟩) :: gs) hrest
      have hdrop : (v ++ rest).drop v.length = rest := by simp
      simp only [List.length_cons, List.range'_succ, List.map_cons, spans, hdrop, hbehind]
      rw [lookup_spans_of_lt _ _ _ _ (Nat.lt_succ_self i)]
      simp

theorem captures?_of_root {r : Regex} {ts : List Token} (hr : r.root = tree ts)
    (path : List Char) :
    r.captures? path = (split ts path).map fun vs => ⟨path, vs.map some⟩ := by
  rw [Regex.captures?, Regex.groupCount, hr, search_tree, groupCount_tree, Option.map_map]
  refine Option.map_congr fun vs hvs => ?_
  have hdec := decomposes_of_split hvs
  have hgroups := map_lookup_spans 1 [] hdec
  rw [List.range'_eq_map_range, hdec.length_eq, List.map_map] at hgroups
  simp only [Function.comp_apply, Captured.mk.injEq]
  refine ⟨by simp [Stretch.text], ?_⟩
  rw [← hgroups]
  refine List.map_congr_left fun j _ => ?_
  rw [Function.comp_apply, Nat.add_comm]

theorem isMatch_of_root {r : Regex} {ts : List Token} (hr : r.root = tree ts)
    (path : List Char) : r.isMatch path ↔ ∃ vs, Decomposes ts path vs := by
  rw [Regex.isMatch, captures?_of_root hr, Option.isSome_map]
  exact split_isSome_iff

section Compile

variable [Engine]

theorem compile_eq_ok {template : String} {limit : Nat} {c : Compiled}
    (h : compile template limit = .ok c) :
    c.regex.root = tree (tokens template.toList) ∧
      c.keys = (names (tokens template.toList)).map String.ofList := by
  rw [compile_eq] at h
  split at h
  · cases h
  · simp only [Except.ok.injEq] at h
    subst h
    exact ⟨rfl, rfl⟩

/-- A compiled template matches exactly the paths that segments give. Its groups then hold the
greedy reading, and its keys are the names of the placeholders they were captured for. -/
theorem compile_matches_expansions {template : String} {limit : Nat} {c : Compiled}
    (h : compile template limit = .ok c) (path : List Char) :
    ∃ ts, (∀ us, Cut template.toList us ↔ us = ts) ∧
      (c.regex.isMatch path ↔ ∃ vs, Decomposes ts path vs) ∧
      (∀ m, c.regex.captures? path = some m →
        m.whole = path ∧ ∃ vs, Greedy ts path vs ∧ m.groups = vs.map some) ∧
      c.keys = (names ts).map String.ofList ∧ c.regex.groupCount = c.keys.length := by
  obtain ⟨hroot, hkeys⟩ := compile_eq_ok h
  refine ⟨tokens template.toList, fun us => cut_iff, isMatch_of_root hroot path, ?_, hkeys, ?_⟩
  · intro m hm
    rw [captures?_of_root hroot] at hm
    obtain ⟨vs, hvs, rfl⟩ := Option.map_eq_some_iff.mp hm
    exact ⟨rfl, vs, greedy_of_split hvs, rfl⟩
  · rw [Regex.groupCount, hroot, groupCount_tree, hkeys, List.length_map]

end Compile

attribute [local instance] Engine.counted

/-- Two placeholders side by side: all but one character go to the first. -/
theorem compile_matches_expansions_adjacent :
    ∃ c, compile "/{a}{b}" 4096 = .ok c ∧
      ∃ ts, (∀ us, Cut "/{a}{b}".toList us ↔ us = ts) ∧
        (c.regex.isMatch "/xyz".toList ↔ ∃ vs, Decomposes ts "/xyz".toList vs) ∧
        (∀ m, c.regex.captures? "/xyz".toList = some m →
          m.whole = "/xyz".toList ∧
            ∃ vs, Greedy ts "/xyz".toList vs ∧ m.groups = vs.map some) ∧
        c.keys = (names ts).map String.ofList ∧ c.regex.groupCount = c.keys.length := by
  have hsize : ¬ Engine.size (expression "/{a}{b}") > 4096 := by decide +kernel
  have hcompile := compile_eq "/{a}{b}" 4096
  rw [if_neg hsize] at hcompile
  exact ⟨_, hcompile, compile_matches_expansions hcompile "/xyz".toList⟩

end TemplateRouter.Template
