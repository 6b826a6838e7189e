import TemplateRouter.Manifest
import TemplateRouter.Proofs.Yaml.Value
/-
What manifests say of methods. In every format it is a proper value; in JSON it is the value of the
source that stands in the declaration.
-/
namespace TemplateRouter

namespace Manifest

open Json (Bounded)

theorem forall₂_of_mapM {α β : Type} {f : α → Option β} {l : List α} {bs : List β}
    (h : l.mapM f = some bs) : List.Forall₂ (fun a b => f a = some b) l bs := by
  induction l generalizing bs with
  | nil =>
    cases h
    exact .nil
  | cons a l ih =>
    rw [List.mapM_cons] at h
    obtain ⟨b, hb, h⟩ := Option.bind_eq_some_iff.mp h
    obtain ⟨bs, hbs, h⟩ := Option.bind_eq_some_iff.mp h
    cases h
    exact .cons hb (ih hbs)

theorem forall_of_forall₂ {α β : Type} {r : α → β → Prop} {P : β → Prop} {l : List α}
    {bs : List β} (h : List.Forall₂ r l bs) (hr : ∀ a b, r a b → P b) : ∀ b ∈ bs, P b := by
  induction h with
  | nil => exact nofun
  | cons hb _ ih => exact List.forall_mem_cons.mpr ⟨hr _ _ hb, ih⟩

theorem forall_of_mapM {α β : Type} {f : α → Option β} {P : β → Prop} {l : List α} {bs : List β}
    (h : l.mapM f = some bs) (hf : ∀ a b, f a = some b → P b) : ∀ b ∈ bs, P b :=
  forall_of_forall₂ (forall₂_of_mapM h) hf

namespace OfYaml

open Yaml (Document Tree)
open Yaml.Document (Yields yields_pure yields_failure yields_bind yields_any yields_mapM)

variable (d : Document)

theorem yields_declaration (t : Tree) :
    Yields (declaration d t) fun declaration => declaration.methods.Bounded (maxDepth - 3) := by
  rw [declaration]
  refine yields_bind (yields_any _) fun fields _ => yields_bind (yields_any _) fun path _ =>
    yields_bind (yields_any _) fun methods _ => yields_bind (yields_any _) fun text _ => ?_
  cases methods with
  | none => exact yields_pure ⟨trivial, Nat.zero_le _⟩
  | some t => exact yields_bind (d.yields_value _ t) fun v hv => yields_pure hv

theorem yields_routes (t : Tree) : Yields (routes d t) fun m =>
    ∀ declaration ∈ m, declaration.methods.Bounded (maxDepth - 3) := by
  rw [routes]
  refine yields_bind (yields_any _) fun tree _ => ?_
  split
  · exact yields_mapM (yields_declaration d) _
  · exact yields_pure nofun
  · exact yields_failure

theorem yields_manifest : Yields (manifest d) fun m =>
    ∀ declaration ∈ m, declaration.methods.Bounded (maxDepth - 3) := by
  rw [manifest]
  refine yields_bind (yields_any _) fun fields _ => yields_bind (yields_any _) fun found _ => ?_
  cases found with
  | none => exact yields_pure nofun
  | some t => exact yields_routes d t

end OfYaml

namespace OfToml

open Toml (Value Entries)

mutual

theorem proper_of_json? : (v : Value) → ∀ {j : Json}, json? v = some j → j.Proper
  | .string s, _, h => by
    rw [json?, Option.some.injEq] at h
    rw [← h]
    trivial
  | .int n, _, h => by
    rw [json?, Option.ite_none_right_eq_some, Option.some.injEq] at h
    rw [← h.2]
    exact h.1
  | .float x, _, h => by
    rw [json?, Option.some.injEq] at h
    rw [← h]
    split <;> trivial
  | .tooLarge, _, h => by simp [json?] at h
  | .bool b, _, h => by
    rw [json?, Option.some.injEq] at h
    rw [← h]
    trivial
  | .moment m, _, h => by
    rw [json?, Option.some.injEq] at h
    rw [← h]
    exact ⟨List.pairwise_singleton _ _, trivial, trivial⟩
  | .array items, _, h => by
    rw [json?] at h
    obtain ⟨vs, hvs, rfl⟩ := Option.map_eq_some_iff.mp h
    exact proper_of_jsonItems? items hvs
  | .tables items, _, h => by
    rw [json?] at h
    obtain ⟨vs, hvs, rfl⟩ := Option.map_eq_some_iff.mp h
    have hproper := Json.properItems_iff.mp (proper_of_jsonTables? items hvs)
    exact Json.properItems_iff.mpr fun v hv => hproper v (List.mem_reverse.mp hv)
  | .table _ entries, _, h => by
    rw [json?] at h
    obtain ⟨ms, hms, rfl⟩ := Option.map_eq_some_iff.mp h
    exact Json.proper_ofMembers (proper_of_jsonEntries? entries hms)

theorem proper_of_jsonItems? : (items : List Value) → ∀ {vs : List Json},
    jsonItems? items = some vs → Json.ProperItems vs
  | [], _, h => by
    rw [jsonItems?, Option.some.injEq] at h
    rw [← h]
    trivial
  | v :: rest, _, h => by
    rw [jsonItems?] at h
    obtain ⟨j, hj, hrest⟩ := Option.bind_eq_some_iff.mp h
    obtain ⟨vs, hvs, rfl⟩ := Option.map_eq_some_iff.mp hrest
    exact ⟨proper_of_json? v hj, proper_of_jsonItems? rest hvs⟩

theorem proper_of_jsonEntries? : (entries : List (String × Value)) →
    ∀ {ms : List (String × Json)}, jsonEntries? entries = some ms → Json.ProperMembers ms
  | [], _, h => by
    rw [jsonEntries?, Option.some.injEq] at h
    rw [← h]
    trivial
  | (k, v) :: rest, _, h => by
    rw [jsonEntries?] at h
    obtain ⟨j, hj, hrest⟩ := Option.bind_eq_some_iff.mp h
    obtain ⟨ms, hms, rfl⟩ := Option.map_eq_some_iff.mp hrest
    exact ⟨proper_of_json? v hj, proper_of_jsonEntries? rest hms⟩

theorem proper_of_jsonTables? : (items : List (List (String × Value))) → ∀ {vs : List Json},
    jsonTables? items = some vs → Json.ProperItems vs
  | [], _, h => by
    rw [jsonTables?, Option.some.injEq] at h
    rw [← h]
    trivial
  | es :: rest, _, h => by
    rw [jsonTables?] at h
    obtain ⟨ms, hms, hrest⟩ := Option.bind_eq_some_iff.mp h
    obtain ⟨vs, hvs, rfl⟩ := Option.map_eq_some_iff.mp hrest
    exact ⟨Json.proper_ofMembers (proper_of_jsonEntries? es hms), proper_of_jsonTables? rest hvs⟩

end

theorem proper_of_methods? {v : Option Value} {j : Json} (h : methods? v = some j) : j.Proper := by
  cases v with
  | none =>
    cases h
    trivial
  | some v => exact proper_of_json? v h

theorem proper_of_fieldsDeclare? {entries : Entries} {declaration : Declaration}
    (h : fieldsDeclare? entries = some declaration) : declaration.methods.Proper := by
  rw [fieldsDeclare?] at h
  obtain ⟨path, -, h⟩ := Option.bind_eq_some_iff.mp h
  obtain ⟨methods, -, h⟩ := Option.bind_eq_some_iff.mp h
  split at h
  · obtain ⟨text, -, h⟩ := Option.bind_eq_some_iff.mp h
    obtain ⟨j, hj, h⟩ := Option.bind_eq_some_iff.mp h
    cases h
    exact proper_of_methods? hj
  · cases h

theorem proper_of_declaration? {v : Value} {declaration : Declaration}
    (h : declaration? v = some declaration) : declaration.methods.Proper := by
  unfold declaration? at h
  split at h
  · exact proper_of_fieldsDeclare? h
  · obtain ⟨text, -, h⟩ := Option.bind_eq_some_iff.mp h
    obtain ⟨j, hj, h⟩ := Option.bind_eq_some_iff.mp h
    cases h
    exact proper_of_methods? hj
  · cases h

theorem proper_of_manifest? {entries : Entries} {m : Manifest} (h : manifest? entries = some m) :
    ∀ declaration ∈ m, declaration.methods.Proper := by
  rw [manifest?, Option.ite_none_right_eq_some] at h
  obtain ⟨-, h⟩ := h
  split at h
  · next v _ =>
    unfold routes? at h
    split at h
    · exact forall_of_mapM h fun _ _ => proper_of_declaration?
    · exact forall_of_mapM h fun _ _ => proper_of_fieldsDeclare?
    · cases h
  · cases h
    exact nofun

end OfToml

namespace OfJson

open Json (Source StringPiece)

/-- A declaration that a source makes: its path, and what it says of its methods, if anything. -/
inductive Declares : Source → String → Option Source → Prop where
  | object {members : List (List StringPiece × Source)} {fields : List (String × Source)}
      {ps : List StringPiece} {text : List Char} {methods : Option Source} :
      fields? members = some fields →
      required? "path" fields = some (.string ps) →
      optional? "methods" fields = some methods →
      Source.text? ps = some text →
      Declares (.object members) (String.ofList text) methods
  | path {ps : List StringPiece} {text : List Char} :
      Source.text? ps = some text →
      Declares (.array [.string ps]) (String.ofList text) none
  | both {ps : List StringPiece} {text : List Char} {methods : Source} :
      Source.text? ps = some text →
      Declares (.array [.string ps, methods]) (String.ofList text) (some methods)

/-- What is read of methods: the value of their source, or null if there is none. -/
inductive Means : Option Source → Json → Prop where
  | missing : Means none .null
  | given {s : Source} {v : Json} : s.value (Source.maxDepth - 3) = some v → Means (some s) v

/-- The sources of the declarations of a manifest. -/
inductive HasRoutes : Source → List Source → Prop where
  | object {members : List (List StringPiece × Source)} {fields : List (String × Source)}
      {items : List Source} :
      fields? members = some fields →
      optional? "routes" fields = some (some (.array items)) →
      HasRoutes (.object members) items
  | missing {members : List (List StringPiece × Source)} {fields : List (String × Source)} :
      fields? members = some fields →
      optional? "routes" fields = some none →
      HasRoutes (.object members) []
  | empty : HasRoutes (.array []) []
  | array (items : List Source) : HasRoutes (.array [.array items]) items

theorem exists_string {s : Source} {text : String} (h : string? s = some text) :
    ∃ ps cs, s = .string ps ∧ Source.text? ps = some cs ∧ text = String.ofList cs := by
  unfold string? at h
  split at h
  · next ps =>
    obtain ⟨cs, hcs, rfl⟩ := Option.map_eq_some_iff.mp h
    exact ⟨ps, cs, rfl, hcs, rfl⟩
  · cases h

theorem means_of_methods? {methods : Option Source} {v : Json} (h : methods? methods = some v) :
    Means methods v := by
  cases methods with
  | none =>
    cases h
    exact .missing
  | some s => exact .given h

theorem declares_of_declaration? {s : Source} {declaration : Declaration}
    (h : declaration? s = some declaration) :
    ∃ methods, Declares s declaration.path methods ∧ Means methods declaration.methods := by
  unfold declaration? at h
  split at h
  · next members =>
    obtain ⟨fields, hfields, h⟩ := Option.bind_eq_some_iff.mp h
    obtain ⟨path, hpath, h⟩ := Option.bind_eq_some_iff.mp h
    obtain ⟨methods, hmethods, h⟩ := Option.bind_eq_some_iff.mp h
    obtain ⟨text, htext, h⟩ := Option.bind_eq_some_iff.mp h
    obtain ⟨v, hv, h⟩ := Option.bind_eq_some_iff.mp h
    cases h
    obtain ⟨ps, cs, rfl, hcs, rfl⟩ := exists_string htext
    exact ⟨methods, .object hfields hpath hmethods hcs, means_of_methods? hv⟩
  · next path =>
    obtain ⟨text, htext, rfl⟩ := Option.map_eq_some_iff.mp h
    obtain ⟨ps, cs, rfl, hcs, rfl⟩ := exists_string htext
    exact ⟨none, .path hcs, .missing⟩
  · next path methods =>
    obtain ⟨text, htext, h⟩ := Option.bind_eq_some_iff.mp h
    obtain ⟨v, hv, h⟩ := Option.bind_eq_some_iff.mp h
    cases h
    obtain ⟨ps, cs, rfl, hcs, rfl⟩ := exists_string htext
    exact ⟨some methods, .both hcs, means_of_methods? hv⟩
  · cases h

/-- A declaration of a manifest next to the source it is read from. -/
def ReadFrom (s : Source) (declaration : Declaration) : Prop :=
  ∃ methods, Declares s declaration.path methods ∧ Means methods declaration.methods

theorem hasRoutes_of_routes? {s : Source} {m : Manifest} (h : routes? s = some m) :
    ∃ items, s = .array items ∧ List.Forall₂ ReadFrom items m := by
  unfold routes? at h
  split at h
  · next items =>
    refine ⟨items, rfl, (forall₂_of_mapM h).imp ?_⟩
    exact fun _ _ => declares_of_declaration?
  · cases h

theorem hasRoutes_of_manifest? {s : Source} {m : Manifest} (h : manifest? s = some m) :
    ∃ items, HasRoutes s items ∧ List.Forall₂ ReadFrom items m := by
  unfold manifest? at h
  split at h
  · obtain ⟨fields, hfields, h⟩ := Option.bind_eq_some_iff.mp h
    obtain ⟨routes, hroutes, h⟩ := Option.bind_eq_some_iff.mp h
    cases routes with
    | none =>
      cases h
      exact ⟨[], .missing hfields hroutes, .nil⟩
    | some v =>
      obtain ⟨items, rfl, hitems⟩ := hasRoutes_of_routes? h
      exact ⟨items, .object hfields hroutes, hitems⟩
  · cases h
    exact ⟨[], .empty, .nil⟩
  · obtain ⟨items, rfl, hitems⟩ := hasRoutes_of_routes? h
    exact ⟨items, .array items, hitems⟩
  · cases h

theorem bounded_of_means {methods : Option Source} {v : Json} (h : Means methods v) :
    v.Bounded (Source.maxDepth - 3) := by
  cases h with
  | missing => exact ⟨trivial, Nat.zero_le _⟩
  | given hv => exact Json.bounded_of_value _ hv

end OfJson

theorem readFrom_of_ofJson? {text : List Char} {m : Manifest} (h : ofJson? text = some m) :
    ∃ s items, Json.Source.parse? text = some s ∧ OfJson.HasRoutes s items ∧
      List.Forall₂ OfJson.ReadFrom items m := by
  obtain ⟨s, hs, hm⟩ := Option.bind_eq_some_iff.mp h
  obtain ⟨items, hroutes, hitems⟩ := OfJson.hasRoutes_of_manifest? hm
  exact ⟨s, items, hs, hroutes, hitems⟩

theorem bounded_of_ofJson? {text : List Char} {m : Manifest} (h : ofJson? text = some m) :
    ∀ declaration ∈ m, declaration.methods.Bounded (Json.Source.maxDepth - 3) := by
  obtain ⟨s, items, -, -, hitems⟩ := readFrom_of_ofJson? h
  refine forall_of_forall₂ hitems ?_
  rintro item declaration ⟨methods, -, hmeans⟩
  exact OfJson.bounded_of_means hmeans

theorem bounded_of_ofYaml? {text : List Char} {m : Manifest} (h : ofYaml? text = some m) :
    ∀ declaration ∈ m, declaration.methods.Bounded (OfYaml.maxDepth - 3) := by
  obtain ⟨d, -, h⟩ := Option.bind_eq_some_iff.mp h
  obtain ⟨⟨m', left⟩, hrun, rfl⟩ := Option.map_eq_some_iff.mp h
  exact OfYaml.yields_manifest d _ m' left hrun

variable {format : Format} {text : List Char} {m : Manifest}

theorem proper_of_parse? (h : parse? format text = some m) :
    ∀ declaration ∈ m, declaration.methods.Proper := by
  cases format with
  | json => exact fun declaration hmem => (bounded_of_ofJson? h declaration hmem).proper
  | yaml => exact fun declaration hmem => (bounded_of_ofYaml? h declaration hmem).proper
  | toml =>
    obtain ⟨entries, -, hm⟩ := Option.bind_eq_some_iff.mp h
    exact OfToml.proper_of_manifest? hm

theorem nesting_of_parse? (hformat : format ≠ .toml) (h : parse? format text = some m) :
    ∀ declaration ∈ m, declaration.methods.nesting < Json.Source.maxDepth := by
  cases format with
  | json =>
    intro declaration hmem
    exact Nat.lt_of_le_of_lt (bounded_of_ofJson? h declaration hmem).nesting_le (by decide)
  | yaml =>
    intro declaration hmem
    exact Nat.lt_of_le_of_lt (bounded_of_ofYaml? h declaration hmem).nesting_le (by decide)
  | toml => exact absurd rfl hformat

end Manifest

end TemplateRouter
