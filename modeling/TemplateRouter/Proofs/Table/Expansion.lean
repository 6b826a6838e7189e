import TemplateRouter.Proofs.Table.Acceptance
import TemplateRouter.Proofs.Table.Parameters
import TemplateRouter.Regex
/-
Matching undoes filling. With a separator between any two placeholders there is one reading of a
path only, so the values that were filled in come back. Without, some reading comes back, and it
gives the same path.
-/
namespace TemplateRouter

namespace Template

/-- Between a placeholder and the next one there is a separator. -/
def Separated (ts : List Token) : Prop :=
  ∀ before name between name' after,
    ts = before ++ .placeholder name :: (between ++ .placeholder name' :: after) →
    names between = [] → .char '/' ∈ between

theorem Separated.tail {t : Token} {ts : List Token} (h : Separated (t :: ts)) : Separated ts := by
  intro before name between name' after hts
  exact h (t :: before) name between name' after (by rw [hts, List.cons_append])

theorem fill_append_of_literal {between : List Token} (h : names between = []) (ts : List Token)
    (vs : List (List Char)) : fill (between ++ ts) vs = fill between [] ++ fill ts vs := by
  induction between with
  | nil => rfl
  | cons t between ih =>
    cases t with
    | char c => rw [List.cons_append, fill, fill, ih h, List.cons_append]
    | placeholder name => cases h

theorem mem_fill {c : Char} {ts : List Token} (vs : List (List Char)) (h : .char c ∈ ts) :
    c ∈ fill ts vs := by
  fun_induction fill ts vs with
  | case1 => cases h
  | case2 vs d ts ih =>
    rcases List.mem_cons.mp h with heq | h
    · rw [Token.char.inj heq]
      exact List.mem_cons_self
    · exact List.mem_cons_of_mem _ (ih h)
  | case3 name ts v vs ih =>
    rcases List.mem_cons.mp h with heq | h
    · cases heq
    · exact List.mem_append_right v (ih h)
  | case4 name ts ih =>
    rcases List.mem_cons.mp h with heq | h
    · cases heq
    · exact ih h

theorem literal_or_first (ts : List Token) :
    names ts = [] ∨ ∃ between name after,
      ts = between ++ .placeholder name :: after ∧ names between = [] := by
  induction ts with
  | nil => exact .inl rfl
  | cons t ts ih =>
    cases t with
    | placeholder name => exact .inr ⟨[], name, ts, rfl, rfl⟩
    | char c =>
      rcases ih with hnone | ⟨between, name, after, rfl, hbetween⟩
      · exact .inl hnone
      · exact .inr ⟨.char c :: between, name, after, rfl, hbetween⟩

theorem takeWhile_append_of_mem {a b : List Char} (h : '/' ∈ a) :
    (a ++ b).takeWhile (· != '/') = a.takeWhile (· != '/') := by
  rw [List.takeWhile_append, if_neg]
  intro hlength
  have hall : a.takeWhile (· != '/') = a := (List.takeWhile_prefix _).eq_of_length hlength
  have hslash := List.all_eq_true.mp (hall ▸ List.all_takeWhile) '/' h
  exact absurd hslash (by decide)

theorem takeWhile_segment {v rest : List Char} (h : '/' ∉ v) :
    (v ++ rest).takeWhile (· != '/') = v ++ rest.takeWhile (· != '/') :=
  List.takeWhile_append_of_pos fun _ hc => bne_iff_ne.mpr fun heq => h (heq ▸ hc)

/-- Where a separated placeholder ends does not depend on how the rest of the path is read. -/
theorem segment_unique {name v w rest rest' : List Char} {ts : List Token}
    {vs ws : List (List Char)} (hsep : Separated (.placeholder name :: ts)) (hv : '/' ∉ v)
    (hw : '/' ∉ w) (hvs : Decomposes ts rest vs) (hws : Decomposes ts rest' ws)
    (h : v ++ rest = w ++ rest') : v = w := by
  rcases literal_or_first ts with hnone | ⟨between, name', after, rfl, hbetween⟩
  · -- Nothing but literal text follows, and it is the same in both readings.
    have hempty : ∀ {path us}, Decomposes ts path us → us = [] := by
      intro path us hus
      rw [← List.length_eq_zero_iff, hus.length_eq, hnone, List.length_nil]
    rw [← hvs.fill_eq, ← hws.fill_eq, hempty hvs, hempty hws] at h
    exact List.append_cancel_right h
  · -- The literal text up to the next placeholder has a separator, which ends both segments.
    have hslash : '/' ∈ fill between [] :=
      mem_fill [] (hsep [] name between name' after rfl hbetween)
    rw [← hvs.fill_eq, ← hws.fill_eq, fill_append_of_literal hbetween,
      fill_append_of_literal hbetween] at h
    have hcut := congrArg (List.takeWhile (· != '/')) h
    rw [takeWhile_segment hv, takeWhile_segment hw, takeWhile_append_of_mem hslash,
      takeWhile_append_of_mem hslash] at hcut
    exact List.append_cancel_right hcut

theorem Decomposes.unique {ts : List Token} {path : List Char} {vs ws : List (List Char)}
    (hvs : Decomposes ts path vs) (hws : Decomposes ts path ws) (hsep : Separated ts) :
    vs = ws := by
  induction ts generalizing path vs ws with
  | nil => rw [(decomposes_nil_iff.mp hvs).1, (decomposes_nil_iff.mp hws).1]
  | cons t ts ih =>
    cases t with
    | char c =>
      obtain ⟨rest, rfl, hrest⟩ := decomposes_char_iff.mp hvs
      obtain ⟨rest', heq, hrest'⟩ := decomposes_char_iff.mp hws
      rw [← (List.cons.inj heq).2] at hrest'
      exact ih hrest hrest' hsep.tail
    | placeholder name =>
      obtain ⟨v, rest, vs, rfl, rfl, hv, hrest⟩ := decomposes_placeholder_iff.mp hvs
      obtain ⟨w, rest', ws, rfl, heq, hw, hrest'⟩ := decomposes_placeholder_iff.mp hws
      have hsame := segment_unique hsep hv.2 hw.2 hrest hrest' heq
      subst hsame
      rw [← List.append_cancel_left heq] at hrest'
      rw [ih hrest hrest' hsep.tail]

theorem split_fill {ts : List Token} {vs : List (List Char)} (hsep : Separated ts)
    (hlength : vs.length = (names ts).length) (hsegments : ∀ v ∈ vs, IsSegment v) :
    split ts (fill ts vs) = some vs := by
  have hvs : Decomposes ts (fill ts vs) vs := ⟨hlength, hsegments, rfl⟩
  obtain ⟨ws, hws⟩ := Option.isSome_iff_exists.mp (split_isSome_of_decomposes hvs)
  rw [hws, (decomposes_of_split hws).unique hvs hsep]

/-- The value of the last placeholder that has a name. -/
def LastValue (ts : List Token) (vs : List (List Char)) (name v : List Char) : Prop :=
  ∃ i : Nat, (names ts)[i]? = some name ∧ vs[i]? = some v ∧
    ∀ j, i < j → (names ts)[j]? ≠ some name

end Template

open Template

variable {α : Type}

/-- A match of a table has all the values that were filled in, and under each name the last one. -/
structure RouteMatch.HasValues (m : RouteMatch α) (ts : List Token) (vs : List (List Char)) :
    Prop where
  captures_eq : m.captures = vs.map fun v => some (String.ofList v)
  param?_eq : ∀ name ∈ names ts, ∃ v, LastValue ts vs name v ∧
    m.param? (String.ofList name) = some (String.ofList v)

theorem RouteMatch.hasValues {ts : List Token} {vs : List (List Char)} {m : RouteMatch α}
    (hlength : vs.length = (names ts).length)
    (hcaptures : m.captures = vs.map fun v => some (String.ofList v))
    (hparams : m.params = paramsOf ((names ts).map String.ofList) m.captures) :
    m.HasValues ts vs := by
  have hkey : ∀ (i : Nat) name, ((names ts).map String.ofList)[i]? = some (String.ofList name) ↔
      (names ts)[i]? = some name := by
    intro i name
    simp [String.ofList_inj]
  have hcapture : ∀ (i : Nat) name, (names ts)[i]? = some name →
      ∃ v, vs[i]? = some v ∧ m.captures[i]? = some (some (String.ofList v)) := by
    intro i name hname
    have hi : i < vs.length := hlength ▸ (List.getElem?_eq_some_iff.mp hname).1
    exact ⟨vs[i], List.getElem?_eq_getElem hi, by simp [hcaptures, hi]⟩
  refine ⟨hcaptures, ?_⟩
  intro name hmem
  obtain ⟨i, hname⟩ := List.mem_iff_getElem?.mp hmem
  obtain ⟨_, _, hpresent⟩ := hcapture i name hname
  obtain ⟨value, j, hname', hvalue, hlater⟩ := exists_lastNamed ((hkey i name).mpr hname) hpresent
  obtain ⟨v, hv, hvalue'⟩ := hcapture j name ((hkey j name).mp hname')
  rw [hvalue, Option.some.injEq, Option.some.injEq] at hvalue'
  subst hvalue'
  refine ⟨v, ⟨j, (hkey j name).mp hname', hv, ?_⟩, ?_⟩
  · intro k hjk hname''
    obtain ⟨w, -, hw⟩ := hcapture k name hname''
    exact hlater k _ hjk ((hkey k name).mpr hname'') hw
  · rw [param?, hparams]
    exact get?_paramsOf_eq_some_iff.mpr (.inl ⟨j, hname', hvalue, hlater⟩)

section Engine

variable [Regex.Engine]

namespace Table

variable {t : Table α} {route : SharedRoute α} {template : String}

theorem InStep.match?_fill (h : t.InStep) (hroutes : t.routes = [route])
    (hpattern : route.pattern = .template template) {vs : List (List Char)}
    (hsplit : split (tokens template.toList) (fill (tokens template.toList) vs) = some vs)
    (hlength : vs.length = (names (tokens template.toList)).length) :
    ∃ m, t.match? (String.ofList (fill (tokens template.toList) vs)) = some m ∧
      m.route = route ∧ m.HasValues (tokens template.toList) vs := by
  have htemplates : ∀ r ∈ t.routes, ∃ template, r.pattern = .template template := by
    rw [hroutes]
    exact List.forall_mem_singleton.mpr ⟨template, hpattern⟩
  have hmatch := h.match?_of_templates htemplates
    (String.ofList (fill (tokens template.toList) vs))
  rw [hroutes, List.findSome?_singleton, RouteMatch.byTemplate, hpattern, RoutePattern.text,
    String.toList_ofList, hsplit, Option.map_some] at hmatch
  exact ⟨_, hmatch, rfl, RouteMatch.hasValues hlength rfl rfl⟩

/-- The captures of a template that wins a path give the path back. -/
theorem InStep.fill_captures (h : t.InStep) {path : String} {m : RouteMatch α}
    (hm : t.match? path = some m) (hpattern : m.route.pattern = .template template) :
    ∃ vs, m.captures = vs.map (fun v => some (String.ofList v)) ∧
      fill (tokens template.toList) vs = path.toList := by
  obtain ⟨e, c, -, he, hc, rfl⟩ := h.winner hm
  have hroot := (compile_eq_ok (Entry.compile_template hpattern (h.compiled e he))).1
  rw [captures?_of_root hroot] at hc
  obtain ⟨vs, hvs, rfl⟩ := Option.map_eq_some_iff.mp hc
  refine ⟨vs, ?_, (decomposes_of_split hvs).fill_eq⟩
  rw [RouteMatch.ofCaptured, List.map_map]
  rfl

end Table

namespace Template

/-- Values that come back from the path they give: from the expression of a template, and from a
table that has only this template. -/
structure Recovers (template : String) (ts : List Token) (vs : List (List Char)) : Prop where
  by_regex (limit : Nat) (c : Compiled) : compile template limit = .ok c →
    c.regex.isMatch (fill ts vs) ∧
      ∃ m, c.regex.captures? (fill ts vs) = some m ∧ m.groups = vs.map some
  exists_table {α : Type} (route : SharedRoute α) (limit : Nat) (c : Compiled) :
    route.pattern = .template template → compile template limit = .ok c →
    ∃ t, (Table.ofRoutes [route] limit).value = .ok t
  by_table {α : Type} (t : Table α) (route : SharedRoute α) : t.Reachable →
    t.routes = [route] → route.pattern = .template template →
    ∃ m, t.match? (String.ofList (fill ts vs)) = some m ∧ m.route = route ∧ m.HasValues ts vs

/-- What was captured gives the path back when it is filled in. -/
structure FillsBack (template : String) (ts : List Token) : Prop where
  by_regex (limit : Nat) (c : Compiled) (path : List Char) (m : Captured) :
    compile template limit = .ok c → c.regex.captures? path = some m →
    ∃ vs, m.groups = vs.map some ∧ fill ts vs = path
  by_table {α : Type} (t : Table α) (path : String) (m : RouteMatch α) : t.Reachable →
    t.match? path = some m → m.route.pattern = .template template →
    ∃ vs, m.captures = vs.map (fun v => some (String.ofList v)) ∧ fill ts vs = path.toList

theorem recovers (template : String) {vs : List (List Char)}
    (hsep : Separated (tokens template.toList))
    (hlength : vs.length = (names (tokens template.toList)).length)
    (hsegments : ∀ v ∈ vs, IsSegment v) : Recovers template (tokens template.toList) vs := by
  have hsplit := split_fill hsep hlength hsegments
  constructor
  · intro limit c hc
    have hcaptures := captures?_of_root (compile_eq_ok hc).1 (fill (tokens template.toList) vs)
    rw [hsplit, Option.map_some] at hcaptures
    exact ⟨by rw [Regex.isMatch, hcaptures]; rfl, _, hcaptures, rfl⟩
  · intro α route limit c hpattern hc
    refine Table.exists_ofRoutes_iff.mpr (List.forall_mem_singleton.mpr ⟨?_, ?_⟩)
    · rintro ⟨template', hpattern', herror⟩
      rw [hpattern, RoutePattern.template.injEq] at hpattern'
      rw [hpattern', herror] at hc
      cases hc
    · rintro ⟨r, cause, hpattern', -⟩
      rw [hpattern] at hpattern'
      cases hpattern'
  · intro α t route ht hroutes hpattern
    exact ht.inStep.match?_fill hroutes hpattern hsplit hlength

theorem fillsBack (template : String) : FillsBack template (tokens template.toList) := by
  constructor
  · intro limit c path m hc hm
    rw [captures?_of_root (compile_eq_ok hc).1] at hm
    obtain ⟨vs, hvs, rfl⟩ := Option.map_eq_some_iff.mp hm
    exact ⟨vs, rfl, (decomposes_of_split hvs).fill_eq⟩
  · intro α t path m ht hm hpattern
    exact ht.inStep.fill_captures hm hpattern

/-- Matching undoes filling for templates with separated placeholders, and for all templates filling
undoes matching. -/
theorem match_undoes_fill (template : String) :
    ∃ ts, (∀ us, Cut template.toList us ↔ us = ts) ∧
      (Separated ts → ∀ vs, vs.length = (names ts).length → (∀ v ∈ vs, IsSegment v) →
        Recovers template ts vs) ∧
      FillsBack template ts :=
  ⟨tokens template.toList, fun _ => cut_iff,
    fun hsep _ hlength hsegments => recovers template hsep hlength hsegments, fillsBack template⟩

end Template

end Engine

attribute [local instance] Regex.Engine.counted

namespace Template

/-- With a name that stands twice, and with values that look like a placeholder and like a line. -/
theorem match_undoes_fill_twice :
    ∃ ts, (∀ us, Cut "/{a}/x{a}".toList us ↔ us = ts) ∧ Separated ts ∧
      String.ofList (fill ts ["{b}".toList, "x\n".toList]) = "/{b}/xx\n" ∧
      Recovers "/{a}/x{a}" ts ["{b}".toList, "x\n".toList] := by
  obtain ⟨ts, hcut, hrecovers, -⟩ := match_undoes_fill "/{a}/x{a}"
  have htokens : tokens "/{a}/x{a}".toList =
      [.char '/', .placeholder ['a'], .char '/', .char 'x', .placeholder ['a']] := by
    decide +kernel
  have hts : ts = tokens "/{a}/x{a}".toList := cut_iff.mp ((hcut ts).mpr rfl)
  rw [htokens] at hts
  subst hts
  have hsep : Separated
      [.char '/', .placeholder ['a'], .char '/', .char 'x', .placeholder ['a']] := by
    rintro (_ | ⟨t, _ | ⟨u, before⟩⟩) name between name' after h hbetween
    · cases h
    · cases between with
      | nil => cases h
      | cons v between =>
        obtain ⟨rfl, -⟩ := List.cons.inj (List.cons.inj (List.cons.inj h).2).2
        exact List.mem_cons_self
    · -- Behind the first placeholder there is one only.
      have hnames : 1 = _ :=
        congrArg (fun ts => (names ts).length) (List.cons.inj (List.cons.inj h).2).2
      simp [names, Token.name?] at hnames
      omega
  exact ⟨_, hcut, hsep, by decide +kernel,
    hrecovers hsep _ rfl (by simp [IsSegment])⟩

end Template

end TemplateRouter
