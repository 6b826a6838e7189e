import TemplateRouter.Proofs.Template.Tokens
/-
What a template says about a path: which texts its placeholders may stand for, and which of the
possible readings is the greedy one.
-/
namespace TemplateRouter.Template

/-- What a placeholder may stand for. -/
def IsSegment (v : List Char) : Prop := v ≠ [] ∧ '/' ∉ v

/-- The path that values give: literal characters stand for themselves, placeholders take the
values in order. -/
def fill : List Token → List (List Char) → List Char
  | [], _ => []
  | .char c :: ts, vs => c :: fill ts vs
  | .placeholder _ :: ts, v :: vs => v ++ fill ts vs
  | .placeholder _ :: ts, [] => fill ts []

/-- A reading of a path: one segment for each placeholder, and they give the path. -/
structure Decomposes (ts : List Token) (path : List Char) (vs : List (List Char)) : Prop where
  length_eq : vs.length = (names ts).length
  segments : ∀ v ∈ vs, IsSegment v
  fill_eq : fill ts vs = path

/-- The reading whose first value is as long as possible, then the second, and so on. -/
structure Greedy (ts : List Token) (path : List Char) (vs : List (List Char)) : Prop extends
    Decomposes ts path vs where
  longest : ∀ ws, Decomposes ts path ws →
    ws = vs ∨ List.Lex (· < ·) (ws.map List.length) (vs.map List.length)

theorem decomposes_nil_iff {path : List Char} {vs : List (List Char)} :
    Decomposes [] path vs ↔ vs = [] ∧ path = [] := by
  constructor
  · intro h
    exact ⟨List.length_eq_zero_iff.mp h.length_eq, h.fill_eq.symm⟩
  · rintro ⟨rfl, rfl⟩
    exact ⟨rfl, by simp, rfl⟩

theorem decomposes_char_iff {c : Char} {ts : List Token} {path : List Char}
    {vs : List (List Char)} :
    Decomposes (.char c :: ts) path vs ↔ ∃ rest, path = c :: rest ∧ Decomposes ts rest vs := by
  constructor
  · intro h
    exact ⟨fill ts vs, h.fill_eq.symm, h.length_eq, h.segments, rfl⟩
  · rintro ⟨rest, rfl, h⟩
    exact ⟨h.length_eq, h.segments, by rw [fill, h.fill_eq]⟩

theorem decomposes_placeholder_iff {name : List Char} {ts : List Token} {path : List Char}
    {vs : List (List Char)} :
    Decomposes (.placeholder name :: ts) path vs ↔
      ∃ v rest ws, vs = v :: ws ∧ path = v ++ rest ∧ IsSegment v ∧ Decomposes ts rest ws := by
  constructor
  · rintro ⟨hlen, hseg, hfill⟩
    cases vs with
    | nil => simp at hlen
    | cons v ws =>
      refine ⟨v, fill ts ws, ws, rfl, hfill.symm, hseg v (by simp), ?_, ?_, rfl⟩
      · simpa using hlen
      · exact fun w hw => hseg w (by simp [hw])
  · rintro ⟨v, rest, ws, rfl, rfl, hv, h⟩
    refine ⟨by simp [h.length_eq], ?_, by rw [fill, h.fill_eq]⟩
    intro w hw
    rcases List.mem_cons.mp hw with rfl | hw
    · exact hv
    · exact h.segments w hw

variable {β : Type}

/-- The longest start of a text without a separator behind which `k` succeeds, and what `k` gives
there. -/
def extend (k : List Char → Option β) : List Char → Option (List Char × β)
  | [] => (k []).map fun b => ([], b)
  | c :: text =>
    ((if c = '/' then none else extend k text).map fun (v, b) => (c :: v, b)).or
      ((k (c :: text)).map fun b => ([], b))

/-- The greedy reading of a path, found by trying the longest values first. -/
def split : List Token → List Char → Option (List (List Char))
  | [], [] => some []
  | [], _ :: _ => none
  | .char _ :: _, [] => none
  | .char c :: ts, x :: path => if x = c then split ts path else none
  | .placeholder _ :: _, [] => none
  | .placeholder _ :: ts, x :: path =>
    if x = '/' then none else (extend (split ts) path).map fun (v, vs) => (x :: v) :: vs

theorem extend_eq_some {k : List Char → Option β} {text v : List Char} {b : β}
    (h : extend k text = some (v, b)) :
    '/' ∉ v ∧ ∃ rest, text = v ++ rest ∧ k rest = some b := by
  induction text generalizing v with
  | nil =>
    simp only [extend, Option.map_eq_some_iff, Prod.mk.injEq] at h
    obtain ⟨b', hb, rfl, rfl⟩ := h
    exact ⟨by simp, [], rfl, hb⟩
  | cons c text ih =>
    rw [extend, Option.or_eq_some_iff] at h
    rcases h with h | ⟨-, h⟩
    · obtain ⟨⟨w, b'⟩, hw, heq⟩ := Option.map_eq_some_iff.mp h
      simp only [Prod.mk.injEq] at heq
      obtain ⟨rfl, rfl⟩ := heq
      split at hw
      · cases hw
      · next hc =>
        obtain ⟨hno, rest, rfl, hk⟩ := ih hw
        refine ⟨?_, rest, rfl, hk⟩
        simp [hno, Ne.symm hc]
    · simp only [Option.map_eq_some_iff, Prod.mk.injEq] at h
      obtain ⟨b', hb, rfl, rfl⟩ := h
      exact ⟨by simp, c :: text, rfl, hb⟩

theorem extend_longest {k : List Char → Option β} {w rest : List Char} (hw : '/' ∉ w)
    (hk : (k rest).isSome) :
    ∃ v b, extend k (w ++ rest) = some (v, b) ∧ w.length ≤ v.length := by
  induction w with
  | nil =>
    obtain ⟨b, hb⟩ := Option.isSome_iff_exists.mp hk
    cases rest with
    | nil => exact ⟨[], b, by simp [extend, hb], Nat.zero_le _⟩
    | cons c rest =>
      cases hm : (if c = '/' then none else extend k rest) with
      | none => exact ⟨[], b, by simp [extend, hm, hb], Nat.zero_le _⟩
      | some p => exact ⟨c :: p.1, p.2, by simp [extend, hm], Nat.zero_le _⟩
  | cons c w ih =>
    simp only [List.mem_cons, not_or] at hw
    obtain ⟨v, b, hv, hle⟩ := ih hw.2
    refine ⟨c :: v, b, ?_, Nat.succ_le_succ hle⟩
    simp [extend, Ne.symm hw.1, hv]

theorem split_isSome_of_decomposes {ts : List Token} {path : List Char} {ws : List (List Char)}
    (h : Decomposes ts path ws) : (split ts path).isSome := by
  induction ts generalizing path ws with
  | nil =>
    obtain ⟨-, rfl⟩ := decomposes_nil_iff.mp h
    rfl
  | cons t ts ih =>
    cases t with
    | char c =>
      obtain ⟨rest, rfl, hrest⟩ := decomposes_char_iff.mp h
      simpa [split] using ih hrest
    | placeholder name =>
      obtain ⟨v, rest, ws, rfl, rfl, ⟨hne, hno⟩, hrest⟩ := decomposes_placeholder_iff.mp h
      obtain ⟨x, v, rfl⟩ := List.exists_cons_of_ne_nil hne
      simp only [List.mem_cons, not_or] at hno
      obtain ⟨w, vs, hw, -⟩ := extend_longest hno.2 (ih hrest)
      simp [split, Ne.symm hno.1, hw]

theorem split_placeholder {name : List Char} {ts : List Token} {path : List Char}
    {vs : List (List Char)} (h : split (.placeholder name :: ts) path = some vs) :
    ∃ x v rest us, vs = (x :: v) :: us ∧ path = x :: (v ++ rest) ∧ IsSegment (x :: v) ∧
      extend (split ts) (v ++ rest) = some (v, us) ∧ split ts rest = some us := by
  cases path with
  | nil => simp [split] at h
  | cons x path =>
    simp only [split] at h
    split at h
    · cases h
    · next hx =>
      obtain ⟨⟨v, us⟩, hext, rfl⟩ := Option.map_eq_some_iff.mp h
      obtain ⟨hno, rest, rfl, hus⟩ := extend_eq_some hext
      exact ⟨x, v, rest, us, rfl, rfl, ⟨by simp, by simp [hno, Ne.symm hx]⟩, hext, hus⟩

theorem decomposes_of_split {ts : List Token} {path : List Char} {vs : List (List Char)}
    (h : split ts path = some vs) : Decomposes ts path vs := by
  induction ts generalizing path vs with
  | nil =>
    cases path with
    | nil => exact decomposes_nil_iff.mpr ⟨by simpa [split] using h.symm, rfl⟩
    | cons x path => simp [split] at h
  | cons t ts ih =>
    cases t with
    | char c =>
      cases path with
      | nil => simp [split] at h
      | cons x path =>
        simp only [split] at h
        split at h
        · next hx => exact decomposes_char_iff.mpr ⟨path, by rw [hx], ih h⟩
        · cases h
    | placeholder name =>
      obtain ⟨x, v, rest, us, rfl, rfl, hseg, -, hus⟩ := split_placeholder h
      exact decomposes_placeholder_iff.mpr ⟨x :: v, rest, us, rfl, rfl, hseg, ih hus⟩

theorem longest_of_split {ts : List Token} {path : List Char} {vs ws : List (List Char)}
    (h : split ts path = some vs) (hw : Decomposes ts path ws) :
    ws = vs ∨ List.Lex (· < ·) (ws.map List.length) (vs.map List.length) := by
  induction ts generalizing path vs ws with
  | nil =>
    obtain ⟨rfl, rfl⟩ := decomposes_nil_iff.mp hw
    rw [split, Option.some.injEq] at h
    exact .inl h
  | cons t ts ih =>
    cases t with
    | char c =>
      obtain ⟨rest, rfl, hrest⟩ := decomposes_char_iff.mp hw
      simp only [split, if_true] at h
      exact ih h hrest
    | placeholder name =>
      obtain ⟨x, v, rest, us, rfl, rfl, hseg, hext, hus⟩ := split_placeholder h
      obtain ⟨w, rest', ws, rfl, hpath, ⟨hne, hno⟩, hrest⟩ := decomposes_placeholder_iff.mp hw
      obtain ⟨y, w, rfl⟩ := List.exists_cons_of_ne_nil hne
      rw [List.cons_append, List.cons.injEq] at hpath
      obtain ⟨rfl, hpath⟩ := hpath
      simp only [List.mem_cons, not_or] at hno
      obtain ⟨v', us', hext', hle⟩ := extend_longest hno.2 (split_isSome_of_decomposes hrest)
      rw [← hpath, hext] at hext'
      simp only [Option.some.injEq, Prod.mk.injEq] at hext'
      rw [← hext'.1] at hle
      -- Values of equal length leave the same rest, so there the comparison moves on.
      rcases Nat.lt_or_eq_of_le hle with hlt | heq
      · exact .inr (.rel (Nat.succ_lt_succ hlt))
      · obtain ⟨rfl, rfl⟩ := List.append_inj hpath heq.symm
        rcases ih hus hrest with hsame | hlex
        · exact .inl (by rw [hsame])
        · exact .inr (.cons hlex)

theorem greedy_of_split {ts : List Token} {path : List Char} {vs : List (List Char)}
    (h : split ts path = some vs) : Greedy ts path vs :=
  ⟨decomposes_of_split h, fun _ hw => longest_of_split h hw⟩

theorem split_isSome_iff {ts : List Token} {path : List Char} :
    (split ts path).isSome ↔ ∃ vs, Decomposes ts path vs := by
  constructor
  · intro h
    obtain ⟨vs, hvs⟩ := Option.isSome_iff_exists.mp h
    exact ⟨vs, decomposes_of_split hvs⟩
  · rintro ⟨vs, h⟩
    exact split_isSome_of_decomposes h

end TemplateRouter.Template
