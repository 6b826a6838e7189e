import Mathlib.Data.List.Nodup
import TemplateRouter.Proofs.Loading.Account
import TemplateRouter.Proofs.Loading.Reload
/-
Which file wins a path. A table answers from the files up to a name, and only if those have no
answer from the files after it; so no change to later files takes a path from an earlier one.
-/
namespace TemplateRouter

open Template

theorem filter_append_filter_not {β : Type} {r : β → β → Prop} {p : β → Bool} {l : List β}
    (h : l.Pairwise r) (hp : ∀ a b, r a b → p b → p a) :
    l.filter p ++ l.filter (fun b => !p b) = l := by
  induction h with
  | nil => rfl
  | @cons a l ha _ ih =>
    cases hpa : p a with
    | true =>
      rw [List.filter_cons_of_pos hpa, List.filter_cons_of_neg (by simp [hpa]), List.cons_append,
        ih]
    | false =>
      -- Nothing after `a` has the property either.
      have hnone : l.filter p = [] := by
        rw [List.filter_eq_nil_iff]
        intro b hb hpb
        have hpa' := hp a b (ha b hb) hpb
        rw [hpa] at hpa'
        cases hpa'
      rw [List.filter_cons_of_neg (by simp [hpa]), List.filter_cons_of_pos (by simp [hpa])]
      rw [hnone, List.nil_append] at ih ⊢
      rw [ih]

namespace Directory

variable {d d' : Directory} {f : FileName}

def upTo (f : FileName) (d : Directory) : Directory := d.filter fun file => decide (file.1 ≤ f)

def beyond (f : FileName) (d : Directory) : Directory := d.filter fun file => !decide (file.1 ≤ f)

/-- The names of the files that the declarations of a directory come from, one for each. -/
def origins (d : Directory) : List FileName :=
  d.manifests.flatMap fun file => (declaredIn file).map fun _ => file.1

theorem manifests_cut (f : FileName) (d : Directory) :
    d.manifests = (d.upTo f).manifests ++ (d.beyond f).manifests := by
  rw [upTo, beyond, manifests_filter, manifests_filter]
  refine (filter_append_filter_not d.manifests_sorted ?_).symm
  intro a b hab hb
  rw [decide_eq_true_eq] at hb ⊢
  exact List.le_trans hab hb

theorem declared_cut (f : FileName) (d : Directory) :
    d.declared = (d.upTo f).declared ++ (d.beyond f).declared := by
  rw [declared, manifests_cut f d, List.flatMap_append]
  rfl

theorem origins_cut (f : FileName) (d : Directory) :
    d.origins = (d.upTo f).origins ++ (d.beyond f).origins := by
  rw [origins, manifests_cut f d, List.flatMap_append]
  rfl

theorem length_origins (d : Directory) :
    (d.origins).length = d.declared.length := by
  rw [origins, declared, List.length_flatMap, List.length_flatMap]
  simp only [List.length_map]

theorem not_le_of_mem_origins_beyond {name : FileName} (h : name ∈ (d.beyond f).origins) :
    ¬ name ≤ f := by
  obtain ⟨file, hfile, hname⟩ := List.mem_flatMap.mp h
  obtain ⟨-, -, rfl⟩ := List.mem_map.mp hname
  rw [beyond, manifests_filter, List.mem_filter] at hfile
  simpa using hfile.2

/-- A name up to which files are taken is the origin only of what those files declare. -/
theorem lt_of_origin {name : FileName} {i : Nat} (h : d.origins[i]? = some name)
    (hname : name ≤ f) : i < ((d.upTo f).declared).length := by
  by_contra hge
  rw [← length_origins] at hge
  rw [origins_cut f d, List.getElem?_append_right (Nat.le_of_not_lt hge)] at h
  exact not_le_of_mem_origins_beyond (List.mem_of_getElem? h) hname

theorem manifests_nodup (h : (d.map Prod.fst).Nodup) : d.manifests.Nodup := by
  refine List.Pairwise.imp ?_ (manifests_ascending h)
  rintro a b hlt rfl
  exact List.lt_irrefl _ hlt

theorem manifests_congr (h : (d.map Prod.fst).Nodup) (h' : (d'.map Prod.fst).Nodup)
    (hsame : ∀ file, Selected file → (file ∈ d ↔ file ∈ d')) : d.manifests = d'.manifests := by
  have hperm : d.manifests.Perm d'.manifests := by
    rw [List.perm_ext_iff_of_nodup (manifests_nodup h) (manifests_nodup h')]
    intro file
    rw [mem_manifests_iff, mem_manifests_iff]
    exact and_congr_left fun hfile => hsame file hfile
  refine hperm.eq_of_pairwise ?_ (manifests_ascending h) (manifests_ascending h')
  intro a b _ _ hab hba
  exact absurd hba (List.lt_asymm hab)

theorem declared_upTo_congr (h : (d.map Prod.fst).Nodup) (h' : (d'.map Prod.fst).Nodup)
    (hsame : ∀ file, Selected file → file.1 ≤ f → (file ∈ d ↔ file ∈ d')) :
    (d.upTo f).declared = (d'.upTo f).declared := by
  have hmanifests : (d.upTo f).manifests = (d'.upTo f).manifests := by
    apply manifests_congr
    · exact h.sublist (List.filter_sublist.map _)
    · exact h'.sublist (List.filter_sublist.map _)
    · intro file hfile
      rw [upTo, upTo, List.mem_filter, List.mem_filter, decide_eq_true_eq]
      exact and_congr_left fun hle => hsame file hfile hle
  rw [declared, declared, hmanifests]

end Directory

/-- What declarations answer for a path: the first template that reads it, with its reading. -/
def Served.answer (declared : List Served) (path : String) :
    Option (Route Served × List (Option String) × Dictionary String) :=
  declared.findSome? fun s =>
    (RouteMatch.byTemplate path { s.route with handle := 0 }).map RouteMatch.content

variable {dir dir₁ dir₂ : Bytes} {d d₁ d₂ : Directory} {limit limit₁ limit₂ : Nat}
  {t t₁ t₂ : Table Served} {f : FileName}

theorem Served.answer_append (l₁ l₂ : List Served) (path : String) :
    answer (l₁ ++ l₂) path = (answer l₁ path).or (answer l₂ path) :=
  List.findSome?_append

theorem Served.answer_eq_none_iff {declared : List Served} {path : String} :
    answer declared path = none ↔ ∀ s ∈ declared, ¬ Covers s.path path := by
  rw [answer, List.findSome?_eq_none_iff]
  refine forall₂_congr fun s _ => ?_
  rw [Option.map_eq_none_iff, RouteMatch.byTemplate_eq_none_iff]
  rfl

/-- A route of the table of a directory that the file of a name declares. -/
def SharedRoute.ComesFrom (r : SharedRoute Served) (t : Table Served) (d : Directory)
    (name : FileName) : Prop :=
  ∃ i : Nat, t.routes[i]? = some r ∧ d.origins[i]? = some name

section Engine

variable [Regex.Engine]

theorem content_of_loadTable (h : (loadTable dir (.ok d) limit).value = .ok t) (path : String) :
    (t.match? path).map RouteMatch.content = Served.answer d.declared path := by
  obtain ⟨hstep, hroutes, -⟩ := Table.ofRoutes_eq_ok_iff.mp (loadTable_listed_eq_ok_iff.mp h)
  rw [hstep.content_match? (templates_of_loadTable h), hroutes, toRoute_share, Directory.routes_eq,
    List.findSome?_map]
  rfl

theorem answer_upTo_of_match (h : (loadTable dir (.ok d) limit).value = .ok t) {path : String}
    {m : RouteMatch Served} {name : FileName} (hm : t.match? path = some m)
    (horigin : m.route.ComesFrom t d name) (hname : name ≤ f) :
    Served.answer ((d.upTo f).declared) path = some m.content := by
  obtain ⟨i, hroute, hname'⟩ := horigin
  have hlt := Directory.lt_of_origin hname' hname
  obtain ⟨hstep, hvalues, hpattern⟩ := routes_of_loadTable h
  have hmem : m.route ∈ t.routes := List.mem_of_getElem? hroute
  have hcontent := content_of_loadTable h path
  rw [hm, Option.map_some, Directory.declared_cut f d, Served.answer_append] at hcontent
  cases hearly : Served.answer ((d.upTo f).declared) path with
  | some c =>
    rw [hearly, Option.some_or] at hcontent
    exact hcontent.symm
  | none =>
    -- The winner stands among the first declarations and covers the path.
    have hvalue : m.route.value ∈ (d.upTo f).declared := by
      have hget : (t.routes.map (·.value))[i]? = some m.route.value := by
        rw [List.getElem?_map, hroute, Option.map_some]
      rw [hvalues, Directory.declared_cut f d, List.getElem?_append_left hlt] at hget
      exact List.mem_of_getElem? hget
    obtain ⟨-, -, -, -, hcovers, -⟩ := hstep.match?_eq_some (templates_of_loadTable h) hm
    rw [hpattern m.route hmem, RoutePattern.text] at hcovers
    exact absurd hcovers (Served.answer_eq_none_iff.mp hearly _ hvalue)

theorem mem_routes_of_match (h : (loadTable dir (.ok d) limit).value = .ok t) {path : String}
    {m : RouteMatch Served} (hm : t.match? path = some m) : m.route ∈ t.routes := by
  obtain ⟨before, after, hroutes, -⟩ :=
    (routes_of_loadTable h).1.match?_eq_some (templates_of_loadTable h) hm
  rw [hroutes]
  exact List.mem_append_right _ List.mem_cons_self

theorem exists_comesFrom (h : (loadTable dir (.ok d) limit).value = .ok t)
    {r : SharedRoute Served} (hr : r ∈ t.routes) : ∃ name, r.ComesFrom t d name := by
  obtain ⟨i, hi⟩ := List.mem_iff_getElem?.mp hr
  obtain ⟨hlt, -⟩ := List.getElem?_eq_some_iff.mp hi
  have hlength := congrArg List.length (routes_of_loadTable h).2.1
  rw [List.length_map, ← Directory.length_origins] at hlength
  rw [hlength] at hlt
  exact ⟨_, i, hi, List.getElem?_eq_getElem hlt⟩

theorem exists_loadTable_beyond (h : (loadTable dir (.ok d) limit).value = .ok t)
    (f : FileName) : ∃ later, (loadTable dir (.ok (d.beyond f)) limit).value = .ok later := by
  have haccepted := exists_loadTable_listed_iff.mp ⟨t, h⟩
  rw [exists_loadTable_listed_iff]
  intro r hr
  apply haccepted
  rw [Directory.routes_eq, Directory.declared_cut f d, List.map_append,
    ← Directory.routes_eq dir, ← Directory.routes_eq dir]
  exact List.mem_append_right _ hr

/-- Two directories with the same manifests up to a name: what one of those wins in the first it
wins in the second too, with the same answer. Where none of them covers a path, the second answers
it as its later files alone do. -/
theorem earlier_files_win (h₁ : (loadTable dir₁ (.ok d₁) limit₁).value = .ok t₁)
    (h₂ : (loadTable dir₂ (.ok d₂) limit₂).value = .ok t₂) (hnames₁ : (d₁.map Prod.fst).Nodup)
    (hnames₂ : (d₂.map Prod.fst).Nodup)
    (hsame : ∀ file, Directory.Selected file → file.1 ≤ f → (file ∈ d₁ ↔ file ∈ d₂)) :
    (∀ path m name, t₁.match? path = some m → m.route.ComesFrom t₁ d₁ name → name ≤ f →
      (t₂.match? path).map RouteMatch.content = some m.content) ∧
    ∃ later, (loadTable dir₂ (.ok (d₂.beyond f)) limit₂).value = .ok later ∧
      ∀ path, (∀ s ∈ (d₁.upTo f).declared, ¬ Covers s.path path) →
        (t₂.match? path).map RouteMatch.content = (later.match? path).map RouteMatch.content := by
  have hearly : (d₁.upTo f).declared = (d₂.upTo f).declared :=
    Directory.declared_upTo_congr hnames₁ hnames₂ hsame
  have hanswer : ∀ path, (t₂.match? path).map RouteMatch.content =
      (Served.answer ((d₁.upTo f).declared) path).or
        (Served.answer ((d₂.beyond f).declared) path) := by
    intro path
    rw [content_of_loadTable h₂, Directory.declared_cut f d₂, Served.answer_append, hearly]
  constructor
  · intro path m name hm horigin hname
    rw [hanswer, answer_upTo_of_match h₁ hm horigin hname, Option.some_or]
  · obtain ⟨later, hlater⟩ := exists_loadTable_beyond h₂ f
    refine ⟨later, hlater, ?_⟩
    intro path hnone
    rw [hanswer, Served.answer_eq_none_iff.mpr hnone, Option.none_or, content_of_loadTable hlater]

end Engine

attribute [local instance] Regex.Engine.counted

/-- With a later file whose template covers the path as well. -/
theorem earlier_files_win_overlapping :
    ∃ (d₁ d₂ : Directory) (t₁ t₂ : Table Served) (m : RouteMatch Served) (f : FileName),
      d₁.map (fun file => Text.Utf8.decode? file.1) = [some "a.toml"] ∧
      d₂.map (fun file => Text.Utf8.decode? file.1) = [some "a.toml", some "b.toml"] ∧
      (loadTable [] (.ok d₁) 4096).value = .ok t₁ ∧ (loadTable [] (.ok d₂) 1300).value = .ok t₂ ∧
      (d₁.map Prod.fst).Nodup ∧ (d₂.map Prod.fst).Nodup ∧
      (∀ file, Directory.Selected file → file.1 ≤ f → (file ∈ d₁ ↔ file ∈ d₂)) ∧
      t₁.match? "/x" = some m ∧ m.route.ComesFrom t₁ d₁ f ∧
      (t₂.match? "/x").map RouteMatch.content = some m.content := by
  let a : FileName × Item := (Text.Utf8.encode "a.toml",
    .file (.bytes (Text.Utf8.encode "[[routes]]\npath = '/{a}'\n")))
  let b : FileName × Item := (Text.Utf8.encode "b.toml",
    .file (.bytes (Text.Utf8.encode "[[routes]]\npath = '/x'\n")))
  have hfiles : Directory.manifests [a] = [a] := by
    rw [Directory.manifests_of_listed (List.pairwise_singleton _ _)]
    decide +kernel
  obtain ⟨t₁, h₁⟩ : ∃ t, (loadTable [] (.ok [a]) 4096).value = .ok t :=
    exists_loadTable_of_listed (by decide +kernel) (by decide +kernel)
  obtain ⟨t₂, h₂⟩ : ∃ t, (loadTable [] (.ok [a, b]) 1300).value = .ok t :=
    exists_loadTable_of_listed (by decide +kernel) (by decide +kernel)
  have hsame : ∀ file, Directory.Selected file → file.1 ≤ a.1 → (file ∈ [a] ↔ file ∈ [a, b]) := by
    intro file _ hle
    rw [List.mem_cons, List.mem_cons (b := a), List.mem_singleton, or_iff_left (by simp),
      or_iff_left]
    rintro rfl
    exact absurd hle (by decide +kernel)
  have hcovered : (Served.answer (Directory.declared [a]) "/x").isSome := by
    rw [Directory.declared, hfiles]
    decide +kernel
  have horigins : ∀ name ∈ Directory.origins [a], name = a.1 := by
    rw [Directory.origins, hfiles]
    decide +kernel
  rw [← content_of_loadTable h₁, Option.isSome_map] at hcovered
  obtain ⟨m, hm⟩ := Option.isSome_iff_exists.mp hcovered
  obtain ⟨name, i, hroute, hname⟩ := exists_comesFrom h₁ (mem_routes_of_match h₁ hm)
  rw [horigins name (List.mem_of_getElem? hname)] at hname
  have hnames₁ : ([a].map Prod.fst).Nodup := List.nodup_singleton _
  have hnames₂ : ([a, b].map Prod.fst).Nodup := by decide +kernel
  have hwins := earlier_files_win h₁ h₂ hnames₁ hnames₂ hsame
  exact ⟨[a], [a, b], t₁, t₂, m, a.1, by decide +kernel, by decide +kernel, h₁, h₂, hnames₁,
    hnames₂, hsame, hm, ⟨i, hroute, hname⟩,
    hwins.1 "/x" m a.1 hm ⟨i, hroute, hname⟩ (List.le_refl _)⟩

end TemplateRouter
