import Mathlib.Data.List.Nodup
import Std.Data.String.ToNat
import TemplateRouter.Proofs.Dictionary
import TemplateRouter.Proofs.Table.Limit
/-
The parameters of a match. Each name stands for the last capture it names, and the numeral of a
position for the capture there, unless a name takes its place.
-/
namespace TemplateRouter

namespace RouteMatch

variable {names keys : List String} {captures : List (Option String)} {name value : String}

/-- A value is captured at the last place that has a name and a capture that took part. -/
def LastNamed (names : List String) (captures : List (Option String)) (name value : String) :
    Prop :=
  ∃ i : Nat, names[i]? = some name ∧ captures[i]? = some (some value) ∧
    ∀ j v, i < j → names[j]? = some name → captures[j]? ≠ some (some v)

/-- A value is captured at the place that a numeral counts, the first being zero. -/
def Numbered (captures : List (Option String)) (name value : String) : Prop :=
  ∃ i : Nat, name = toString i ∧ captures[i]? = some (some value)

/-- What a name stands for: what a key of this name has captured last or else, if the name is a
numeral, what is captured at its place. -/
def Binds (keys : List String) (captures : List (Option String)) (name value : String) : Prop :=
  LastNamed keys captures name value ∨
    (∀ v, ¬ LastNamed keys captures name v) ∧ Numbered captures name value

theorem exists_lastNamed {value : String} {i : Nat} (hname : names[i]? = some name)
    (hcapture : captures[i]? = some (some value)) : ∃ v, LastNamed names captures name v := by
  by_cases hlater : ∃ (j : Nat) (v : String),
      i < j ∧ names[j]? = some name ∧ captures[j]? = some (some v)
  · obtain ⟨j, v, hij, hname', hcapture'⟩ := hlater
    have hj : j < names.length := (List.getElem?_eq_some_iff.mp hname').1
    exact exists_lastNamed hname' hcapture'
  · refine ⟨value, i, hname, hcapture, ?_⟩
    intro j v hij hname' hcapture'
    exact hlater ⟨j, v, hij, hname', hcapture'⟩
termination_by names.length - i

theorem lastNamed_cons_iff {n : String} {c : Option String} :
    LastNamed (n :: names) (c :: captures) name value ↔ LastNamed names captures name value ∨
      (∀ v, ¬ LastNamed names captures name v) ∧ name = n ∧ c = some value := by
  constructor
  · rintro ⟨i, hname, hcapture, hlast⟩
    cases i with
    | zero =>
      refine .inr ⟨?_, (Option.some.inj hname).symm, Option.some.inj hcapture⟩
      rintro v ⟨j, hname', hcapture', -⟩
      exact hlast (j + 1) v (Nat.succ_pos j) hname' hcapture'
    | succ i =>
      refine .inl ⟨i, hname, hcapture, ?_⟩
      intro j v hij
      exact hlast (j + 1) v (Nat.succ_lt_succ hij)
  · rintro (⟨i, hname, hcapture, hlast⟩ | ⟨hnone, rfl, rfl⟩)
    · refine ⟨i + 1, hname, hcapture, ?_⟩
      intro j v hij
      cases j with
      | zero => exact absurd hij (Nat.not_lt_zero _)
      | succ j => exact hlast j v (Nat.lt_of_succ_lt_succ hij)
    · refine ⟨0, rfl, rfl, ?_⟩
      intro j v hj hname hcapture
      cases j with
      | zero => exact Nat.lt_irrefl 0 hj
      | succ j =>
        have hlast : ∃ v, LastNamed names captures name v := exists_lastNamed hname hcapture
        obtain ⟨v', hv'⟩ := hlast
        exact hnone v' hv'

theorem last?_bindings_cons (n : String) (c : Option String) :
    Dictionary.last? (bindings (n :: names) (c :: captures)) name =
      (Dictionary.last? (bindings names captures) name).or (if name = n then c else none) := by
  cases c with
  | none => simp [bindings]
  | some v => simp [bindings, Dictionary.last?]

theorem last?_bindings_eq_some_iff :
    Dictionary.last? (bindings names captures) name = some value ↔
      LastNamed names captures name value := by
  induction names generalizing captures value with
  | nil =>
    refine iff_of_false nofun ?_
    rintro ⟨i, hname, -⟩
    cases hname
  | cons n names ih =>
    cases captures with
    | nil =>
      refine iff_of_false nofun ?_
      rintro ⟨i, -, hcapture, -⟩
      cases hcapture
    | cons c captures =>
      rw [last?_bindings_cons, lastNamed_cons_iff, Option.or_eq_some_iff, ih,
        Option.eq_none_iff_forall_ne_some]
      simp only [ne_eq, ih]
      refine or_congr_right (and_congr_right fun _ => ?_)
      by_cases hname : name = n <;> simp [hname]

/-- The numerals of different places differ. -/
theorem lastNamed_numerals_iff :
    LastNamed ((List.range captures.length).map toString) captures name value ↔
      Numbered captures name value := by
  have hnumeral : ∀ (i : Nat) name, ((List.range captures.length).map toString)[i]? = some name ↔
      i < captures.length ∧ toString i = name := by
    intro i name
    by_cases hi : i < captures.length <;> simp [hi]
  constructor
  · rintro ⟨i, hname, hcapture, -⟩
    exact ⟨i, ((hnumeral i name).mp hname).2.symm, hcapture⟩
  · rintro ⟨i, rfl, hcapture⟩
    have hi : i < captures.length := (List.getElem?_eq_some_iff.mp hcapture).1
    refine ⟨i, (hnumeral i _).mpr ⟨hi, rfl⟩, hcapture, ?_⟩
    intro j v hij hname
    have hsame : j = i := Nat.repr_injective ((hnumeral j _).mp hname).2
    omega

theorem get?_paramsOf_eq_some_iff :
    (paramsOf keys captures).get? name = some value ↔ Binds keys captures name value := by
  rw [paramsOf, Dictionary.get?_ofPairs, Dictionary.last?_append, Option.or_eq_some_iff,
    Option.eq_none_iff_forall_ne_some, last?_bindings_eq_some_iff, last?_bindings_eq_some_iff,
    lastNamed_numerals_iff]
  simp only [ne_eq, last?_bindings_eq_some_iff]
  rfl

theorem exists_binds_iff :
    (∃ v, Binds keys captures name v) ↔
      (∃ v, LastNamed keys captures name v) ∨ ∃ v, Numbered captures name v := by
  constructor
  · rintro ⟨v, hv | ⟨-, hv⟩⟩
    · exact .inl ⟨v, hv⟩
    · exact .inr ⟨v, hv⟩
  · rintro (⟨v, hv⟩ | ⟨v, hv⟩)
    · exact ⟨v, .inl hv⟩
    · by_cases hnamed : ∃ w, LastNamed keys captures name w
      · obtain ⟨w, hw⟩ := hnamed
        exact ⟨w, .inl hw⟩
      · exact ⟨v, .inr ⟨fun w hw => hnamed ⟨w, hw⟩, hv⟩⟩

section Doubled

variable (hlength : keys.length = captures.length) (hall : ∀ c ∈ captures, ∃ v, c = some v)
  (hnodup : keys.Nodup) (hnumerals : ∀ i < captures.length, toString i ∉ keys)

include hall in
theorem exists_capture {i : Nat} (hi : i < captures.length) :
    ∃ v, captures[i]? = some (some v) := by
  obtain ⟨v, hv⟩ := hall captures[i] (List.getElem_mem hi)
  exact ⟨v, by rw [List.getElem?_eq_getElem hi, hv]⟩

include hnodup in
theorem binds_name {i : Nat} (hname : keys[i]? = some name)
    (hcapture : captures[i]? = some (some value)) : Binds keys captures name value := by
  refine .inl ⟨i, hname, hcapture, ?_⟩
  intro j v hij hname'
  have hi : i < keys.length := (List.getElem?_eq_some_iff.mp hname).1
  have hsame : i = j := (List.getElem?_inj hi hnodup).mp (hname.trans hname'.symm)
  omega

include hnumerals in
theorem binds_numeral {i : Nat} (hcapture : captures[i]? = some (some value)) :
    Binds keys captures (toString i) value := by
  refine .inr ⟨?_, i, rfl, hcapture⟩
  rintro v ⟨j, hname, -⟩
  have hi : i < captures.length := (List.getElem?_eq_some_iff.mp hcapture).1
  exact hnumerals i hi (List.mem_of_getElem? hname)

include hlength hall in
theorem exists_binds_iff_mem :
    (∃ v, Binds keys captures name v) ↔
      name ∈ (List.range captures.length).map toString ++ keys := by
  rw [exists_binds_iff, List.mem_append, or_comm, List.mem_map]
  refine or_congr ?_ ?_
  · constructor
    · rintro ⟨v, i, rfl, hcapture⟩
      exact ⟨i, List.mem_range.mpr (List.getElem?_eq_some_iff.mp hcapture).1, rfl⟩
    · rintro ⟨i, hi, rfl⟩
      obtain ⟨v, hv⟩ := exists_capture hall (List.mem_range.mp hi)
      exact ⟨v, i, rfl, hv⟩
  · constructor
    · rintro ⟨v, i, hname, -⟩
      exact List.mem_of_getElem? hname
    · intro hmem
      obtain ⟨i, hname⟩ := List.mem_iff_getElem?.mp hmem
      have hi : i < keys.length := (List.getElem?_eq_some_iff.mp hname).1
      obtain ⟨v, hv⟩ := exists_capture hall (hlength ▸ hi)
      exact exists_lastNamed hname hv

include hlength hall hnodup hnumerals in
theorem length_paramsOf : (paramsOf keys captures).length = 2 * captures.length := by
  have hnumeralsNodup : ((List.range captures.length).map toString).Nodup :=
    List.Nodup.map (fun _ _ h => Nat.repr_injective h) List.nodup_range
  have hnames : ((List.range captures.length).map toString ++ keys).Nodup := by
    refine List.nodup_append'.mpr ⟨hnumeralsNodup, hnodup, ?_⟩
    intro name hname
    obtain ⟨i, hi, rfl⟩ := List.mem_map.mp hname
    exact hnumerals i (List.mem_range.mp hi)
  have hlen := (Dictionary.sorted_ofPairs _).length_eq hnames fun name =>
    ((exists_congr fun v => get?_paramsOf_eq_some_iff).trans
      (exists_binds_iff_mem hlength hall)).symm
  rw [paramsOf, hlen, List.length_append, List.length_map, List.length_range, hlength, Nat.two_mul]

end Doubled

variable {α : Type}

/-- Each capture is a parameter under its numeral and under its name, and there are no others. -/
structure Doubled (m : RouteMatch α) (keys : List String) : Prop where
  length_eq : m.params.length = 2 * m.captures.length
  both (i : Nat) (name : String) : keys[i]? = some name →
    ∃ v, m.captures[i]? = some (some v) ∧ m.param? (toString i) = some v ∧
      m.param? name = some v

/-- What a match says of a path, if an entry has won it. -/
structure Lawful (m : RouteMatch α) (entry : Entry α) (path : String) : Prop where
  route_eq : m.route = entry.route
  groups : ∃ whole gs, entry.regex.root.search {} (.ofText path.toList) = some (whole, gs) ∧
    m.captures.length = entry.regex.groupCount ∧
    ∀ i < entry.regex.groupCount,
      m.captures[i]? = some ((gs.lookup (i + 1)).map fun s => String.ofList s.text)
  param?_eq_some_iff (name value : String) :
    m.param? name = some value ↔ Binds entry.keys m.captures name value
  keys_compiled (r : Regex) : m.route.pattern = .compiled r → entry.keys = []
  keys_template (template : String) : m.route.pattern = .template template →
    ∃ ts, Template.Cut template.toList ts ∧
      entry.keys = (Template.names ts).map String.ofList ∧
      entry.keys.length = entry.regex.groupCount
  doubled (template : String) : m.route.pattern = .template template → entry.keys.Nodup →
    (∀ i < entry.regex.groupCount, toString i ∉ entry.keys) → m.Doubled entry.keys

end RouteMatch

theorem Regex.search_of_captures? {r : Regex} {text : List Char} {c : Captured}
    (h : r.captures? text = some c) :
    ∃ whole gs, r.root.search {} (.ofText text) = some (whole, gs) ∧
      c.groups = (List.range r.groupCount).map fun i => (gs.lookup (i + 1)).map Stretch.text := by
  obtain ⟨⟨whole, gs⟩, hsearch, rfl⟩ := Option.map_eq_some_iff.mp h
  exact ⟨whole, gs, hsearch, rfl⟩

variable [Regex.Engine] {α : Type}

namespace Entry

variable {entry : Entry α} {limit : Nat}

theorem keys_of_compiled {r : Regex} (hpattern : entry.route.pattern = .compiled r)
    (h : compile entry.route limit = .ok entry) : entry.keys = [] := by
  rw [compile, hpattern, Except.ok.injEq] at h
  rw [← h]

/-- The entry of a template has a key for each group, and in a match each group takes part. -/
theorem keys_of_template {template : String} (hpattern : entry.route.pattern = .template template)
    (h : compile entry.route limit = .ok entry) :
    entry.keys = (Template.names (Template.tokens template.toList)).map String.ofList ∧
      entry.keys.length = entry.regex.groupCount ∧
      ∀ text c, entry.regex.captures? text = some c → ∀ g ∈ c.groups, ∃ v, g = some v := by
  have hcompiled := Template.compile_eq_ok (compile_template hpattern h)
  have hroot : entry.regex.root = Template.tree (Template.tokens template.toList) := hcompiled.1
  have hkeys : entry.keys = (Template.names (Template.tokens template.toList)).map String.ofList :=
    hcompiled.2
  refine ⟨hkeys, ?_, ?_⟩
  · rw [Regex.groupCount, hroot, Template.groupCount_tree, hkeys, List.length_map]
  · intro text c hc g hg
    rw [Template.captures?_of_root hroot] at hc
    obtain ⟨vs, -, rfl⟩ := Option.map_eq_some_iff.mp hc
    obtain ⟨v, -, rfl⟩ := List.mem_map.mp hg
    exact ⟨v, rfl⟩

theorem lawful_ofCaptured (h : compile entry.route limit = .ok entry) {path : String}
    {c : Captured} (hc : entry.regex.captures? path.toList = some c) :
    (RouteMatch.ofCaptured entry c).Lawful entry path := by
  obtain ⟨whole, gs, hsearch, hgroups⟩ := Regex.search_of_captures? hc
  have hlength : (RouteMatch.ofCaptured entry c).captures.length = entry.regex.groupCount := by
    rw [RouteMatch.ofCaptured, List.length_map, hgroups, List.length_map, List.length_range]
  have hparam : ∀ name value, (RouteMatch.ofCaptured entry c).param? name = some value ↔
      RouteMatch.Binds entry.keys (RouteMatch.ofCaptured entry c).captures name value :=
    fun name value => RouteMatch.get?_paramsOf_eq_some_iff
  constructor
  · rfl
  · refine ⟨whole, gs, hsearch, hlength, ?_⟩
    intro i hi
    simp [RouteMatch.ofCaptured, hgroups, hi, Function.comp_def]
  · exact hparam
  · intro r hpattern
    exact keys_of_compiled hpattern h
  · intro template hpattern
    obtain ⟨hkeys, hkeysLength, -⟩ := keys_of_template hpattern h
    exact ⟨_, Template.cut_iff.mpr rfl, hkeys, hkeysLength⟩
  · intro template hpattern hnodup hnumerals
    obtain ⟨-, hkeysLength, hsome⟩ := keys_of_template hpattern h
    rw [← hlength] at hnumerals hkeysLength
    have hall : ∀ g ∈ (RouteMatch.ofCaptured entry c).captures, ∃ v, g = some v := by
      intro g hg
      obtain ⟨g', hg', rfl⟩ := List.mem_map.mp hg
      obtain ⟨v, rfl⟩ := hsome _ c hc g' hg'
      exact ⟨_, rfl⟩
    refine ⟨RouteMatch.length_paramsOf hkeysLength hall hnodup hnumerals, ?_⟩
    intro i name hname
    have hi : i < entry.keys.length := (List.getElem?_eq_some_iff.mp hname).1
    obtain ⟨v, hv⟩ := RouteMatch.exists_capture hall (hkeysLength ▸ hi)
    exact ⟨v, hv, (hparam _ _).mpr (RouteMatch.binds_numeral hnumerals hv),
      (hparam _ _).mpr (RouteMatch.binds_name hnodup hname hv)⟩

end Entry

namespace Table

theorem InStep.winner {t : Table α} (h : t.InStep) {path : String} {m : RouteMatch α}
    (hm : t.match? path = some m) :
    ∃ e c, t.switch.find? path.toList = some (e, c) ∧ e ∈ t.registered ∧
      e.regex.captures? path.toList = some c ∧ m = .ofCaptured e c := by
  obtain ⟨⟨e, c⟩, hfind, rfl⟩ := Option.map_eq_some_iff.mp hm
  have hdispatch := hfind
  rw [h.find?_eq] at hdispatch
  obtain ⟨hfirst, hc⟩ := Switch.findSome?_dispatch_eq_some_iff.mp hdispatch
  exact ⟨e, c, hfind, hfirst.mem, hc, rfl⟩

theorem InStep.lawful {t : Table α} (h : t.InStep) {path : String} {m : RouteMatch α}
    (hm : t.match? path = some m) :
    ∃ e c, t.switch.find? path.toList = some (e, c) ∧ e ∈ t.registered ∧ m.Lawful e path := by
  obtain ⟨e, c, hfind, he, hc, rfl⟩ := h.winner hm
  exact ⟨e, c, hfind, he, Entry.lawful_ofCaptured (h.compiled e he) hc⟩

end Table

end TemplateRouter
