import TemplateRouter.Proofs.CommandLine.Answers
import TemplateRouter.Proofs.Table.Parameters
import TemplateRouter.Proofs.Table.Run
import TemplateRouter.Proofs.Text.Order
/-
What a command prints of the parameters of a match: all of them, in the order of their bytes.
-/
namespace TemplateRouter

open Template

/-- A line for a match has all its parameters as the members of one object, in ascending order of
the bytes of their names. -/
def Command.PrintsParams (path : String) (m : RouteMatch Served) (line : String) : Prop :=
  ∃ members : List (String × Json),
    line = (Json.object [("path", .string path), ("handler", .string m.route.value.handler),
      ("pattern", .string m.route.value.path), ("params", .object members),
      ("methods", m.route.value.methods)]).text ∧
    members.Pairwise (fun p q => Text.Utf8.encode p.1 < Text.Utf8.encode q.1) ∧
    ∀ name v, (name, v) ∈ members ↔ ∃ text, v = .string text ∧ m.param? name = some text

theorem RouteMatch.sorted_ofCaptured {α : Type} (e : Entry α) (c : Captured) :
    Dictionary.Sorted (RouteMatch.ofCaptured e c).params :=
  Dictionary.sorted_ofPairs _

theorem Command.printsParams {t : Table Served} {path : String} {m : RouteMatch Served}
    (hm : t.match? path = some m) : PrintsParams path m (answerLine (answer t path).value) := by
  obtain ⟨⟨e, c⟩, -, rfl⟩ := Option.map_eq_some_iff.mp hm
  have hsorted := RouteMatch.sorted_ofCaptured e c
  refine ⟨_, answerLine_some hm, ?_, ?_⟩
  · refine List.pairwise_map.mpr (hsorted.imp ?_)
    intro p q hlt
    exact Text.Utf8.encode_lt_encode_iff.mpr hlt
  · intro name v
    rw [List.mem_map]
    constructor
    · rintro ⟨⟨name', text⟩, hmem, heq⟩
      obtain ⟨rfl, rfl⟩ := Prod.mk.inj heq
      exact ⟨text, rfl, hsorted.mem_iff.mp hmem⟩
    · rintro ⟨text, rfl, hparam⟩
      exact ⟨(name, text), hsorted.mem_iff.mpr hparam, rfl⟩

/-- The parameters of whatever match a table gives: named ones before numbered ones, the last of
equal names, nothing beside; and what is printed of a match is all of them. -/
theorem Table.params_lawful [Regex.Engine] {α : Type} {t : Table α} (h : t.Reachable)
    {path : String} {m : RouteMatch α} (hm : t.match? path = some m) :
    (∃ e c, t.switch.find? path.toList = some (e, c) ∧ e ∈ t.registered ∧ m.Lawful e path) ∧
      ∀ (s : Table Served) path m, s.match? path = some m →
        Command.PrintsParams path m (Command.answerLine (Command.answer s path).value) :=
  ⟨h.inStep.lawful hm, fun _ _ _ hs => Command.printsParams hs⟩

/-- With a numeral as the name of another place, and with one name for two places. -/
theorem Table.params_lawful_shadowed :
    ∃ (t : Table Unit) (m : RouteMatch Unit), t.Reachable ∧ t.match? "/x/y/z" = some m ∧
      m.param? "1" = some "x" ∧ m.param? "a" = some "z" ∧
      ∃ e c, t.switch.find? "/x/y/z".toList = some (e, c) ∧ e ∈ t.registered ∧
        m.Lawful e "/x/y/z" := by
  let route : SharedRoute Unit := ⟨⟨.template "/{1}/{a}/{a}", ()⟩, 0⟩
  have hmade : (Table.ofRoutes [route] 4096).value.isOk := by decide +kernel
  cases htable : (Table.ofRoutes [route] 4096).value with
  | error e =>
    rw [htable] at hmade
    cases hmade
  | ok t =>
    obtain ⟨hstep, hroutes, -⟩ := Table.ofRoutes_eq_ok_iff.mp htable
    have hreachable : t.Reachable := ⟨.withLimit [route] 4096, t, [], htable, rfl⟩
    have htemplates : ∀ r ∈ t.routes, ∃ template, r.pattern = .template template := by
      rw [hroutes]
      exact List.forall_mem_singleton.mpr ⟨_, rfl⟩
    have hsplit : split (tokens "/{1}/{a}/{a}".toList) "/x/y/z".toList =
        some [['x'], ['y'], ['z']] := by decide +kernel
    have hmatch := hstep.match?_of_templates htemplates "/x/y/z"
    rw [hroutes, List.findSome?_singleton, RouteMatch.byTemplate] at hmatch
    dsimp only [route, RoutePattern.text] at hmatch
    rw [hsplit] at hmatch
    exact ⟨t, _, hreachable, hmatch, by decide +kernel, by decide +kernel,
      (params_lawful hreachable hmatch).1⟩

end TemplateRouter
