import Mathlib.Tactic.Common
import TemplateRouter.Directory
/-
File names: the stem of a name and the format it promises are read off at its last dot.
-/
namespace TemplateRouter

/-- The extensions that a format goes by, in small letters. -/
def Manifest.Format.extensions : Manifest.Format → List String
  | .json => ["json"]
  | .yaml => ["yaml", "yml"]
  | .toml => ["toml"]

theorem Manifest.Format.ofExtension?_eq_some_iff {extension : String} {format : Format} :
    ofExtension? extension = some format ↔ extension ∈ format.extensions := by
  constructor
  · intro h
    unfold ofExtension? at h
    split at h <;> cases h <;> simp [extensions]
  · intro h
    cases format with
    | json => rw [List.mem_singleton.mp h]; rfl
    | toml => rw [List.mem_singleton.mp h]; rfl
    | yaml =>
      rcases List.mem_cons.mp h with rfl | h
      · rfl
      · rw [List.mem_singleton.mp h]; rfl

namespace FileName

variable {name : FileName} {before after : Bytes}

theorem ne_dot_of_mem_reverse (h : 46 ∉ name) : ∀ b ∈ name.reverse, (b != 46) = true := by
  intro b hb
  rw [bne_iff_ne]
  rintro rfl
  exact h (List.mem_reverse.mp hb)

theorem divide_of_not_mem (h : 46 ∉ name) : divide name = (name, none) := by
  have hall : (name.reverse ++ []).takeWhile (· != 46) = _ :=
    List.takeWhile_append_of_pos (ne_dot_of_mem_reverse h)
  rw [List.takeWhile_nil, List.append_nil] at hall
  simp [divide, hall]

theorem divide_append (h : 46 ∉ after) :
    divide (before ++ 46 :: after) =
      if before.isEmpty || before ++ 46 :: after == [46, 46] then (before ++ 46 :: after, none)
      else (before, some after) := by
  have hafter : ((before ++ 46 :: after).reverse.takeWhile (· != 46)).reverse = after := by
    rw [List.reverse_append, List.reverse_cons, List.append_assoc,
      List.takeWhile_append_of_pos (ne_dot_of_mem_reverse h)]
    simp
  have hlength : (before ++ 46 :: after).length = before.length + (after.length + 1) := by
    rw [List.length_append, List.length_cons]
  have hbefore : (before ++ 46 :: after).take
      ((before ++ 46 :: after).length - after.length - 1) = before := by
    have hcut : (before ++ 46 :: after).length - after.length - 1 = before.length := by omega
    rw [hcut, List.take_left]
  have hlt : after.length ≠ (before ++ 46 :: after).length := by omega
  simp only [divide, hafter, hbefore, decide_eq_false hlt, Bool.false_or]

/-- A name is divided at its last dot, unless that stands at the front or the name is two dots. -/
theorem divide_eq_some_iff :
    divide name = (before, some after) ↔
      name = before ++ 46 :: after ∧ before ≠ [] ∧ 46 ∉ after ∧ name ≠ [46, 46] := by
  constructor
  · intro h
    -- The last dot of the name is the first one of the name read backwards.
    by_cases hdot : (46 : UInt8) ∈ name
    · obtain ⟨front, back, hsplit, hfront⟩ :=
        List.eq_append_cons_of_mem (List.mem_reverse.mpr hdot)
      have hname : name = back.reverse ++ 46 :: front.reverse := by
        rw [← List.reverse_reverse name, hsplit]
        simp
      have hback : 46 ∉ front.reverse := by rwa [List.mem_reverse]
      rw [hname, divide_append hback] at h
      split at h
      · cases h
      · next hdivides =>
        rw [Prod.mk.injEq, Option.some.injEq] at h
        obtain ⟨rfl, rfl⟩ := h
        rw [Bool.or_eq_true, not_or, List.isEmpty_iff, beq_iff_eq, ← hname] at hdivides
        exact ⟨hname, hdivides.1, hback, hdivides.2⟩
    · rw [divide_of_not_mem hdot] at h
      cases h
  · rintro ⟨rfl, hbefore, hafter, htwo⟩
    rw [divide_append hafter, if_neg (by simp [hbefore, htwo])]

/-- A name that is a stem, a dot, and an extension of a format in letters of either case. -/
def Promises (name : FileName) (before : Bytes) (format : Manifest.Format) : Prop :=
  ∃ extension text, name = before ++ 46 :: extension ∧ before ≠ [] ∧ 46 ∉ extension ∧
    Text.Utf8.decode? extension = some text ∧
    String.ofList (text.toList.map Char.toLower) ∈ format.extensions

/-- Nothing stands behind the second of two dots, and no format goes by that. -/
theorem ne_two_dots {format : Manifest.Format} (h : name.Promises before format) :
    name ≠ [46, 46] := by
  obtain ⟨extension, text, hname, hbefore, -, htext, hformat⟩ := h
  intro htwo
  have hempty : extension = [] := by
    rw [htwo] at hname
    have hlength := congrArg List.length hname
    have hpos := List.length_pos_iff.mpr hbefore
    simp only [List.length_append, List.length_cons, List.length_nil] at hlength
    exact List.eq_nil_of_length_eq_zero (by omega)
  have hnone : text = "" := by
    have hdecode : Text.Utf8.decode? [] = some "" := by decide +kernel
    rw [hempty, hdecode] at htext
    exact (Option.some.inj htext).symm
  rw [hnone] at hformat
  cases format <;> revert hformat <;> decide

theorem divide_of_promises {format : Manifest.Format} (h : name.Promises before format) :
    (divide name).1 = before ∧ name.format? = some format := by
  have htwo := ne_two_dots h
  obtain ⟨extension, text, hname, hbefore, hextension, htext, hformat⟩ := h
  have hdivide := divide_eq_some_iff.mpr ⟨hname, hbefore, hextension, htwo⟩
  refine ⟨by rw [hdivide], ?_⟩
  rw [format?, extension?, hdivide, Option.bind_some, htext, Option.map_some, Option.bind_some]
  exact Manifest.Format.ofExtension?_eq_some_iff.mpr hformat

theorem format?_eq_some_iff {format : Manifest.Format} :
    name.format? = some format ↔ ∃ before, name.Promises before format := by
  constructor
  · intro h
    obtain ⟨lower, hlower, hformat⟩ := Option.bind_eq_some_iff.mp h
    obtain ⟨text, htext, rfl⟩ := Option.map_eq_some_iff.mp hlower
    obtain ⟨extension, hextension, htext⟩ := Option.bind_eq_some_iff.mp htext
    obtain ⟨hname, hbefore, hdot, -⟩ := divide_eq_some_iff.mp (Prod.ext rfl hextension)
    exact ⟨_, extension, text, hname, hbefore, hdot, htext,
      Manifest.Format.ofExtension?_eq_some_iff.mp hformat⟩
  · rintro ⟨before, h⟩
    exact (divide_of_promises h).2

theorem stem_of_promises {format : Manifest.Format} (h : name.Promises before format) :
    name.stem = (Text.Utf8.decode? before).getD "" := by
  rw [stem, (divide_of_promises h).1]

end FileName

namespace Directory

/-- A file that is not hidden and has a name that promises a format. -/
def Selected (file : FileName × Item) : Prop :=
  ∃ content before format, file.2 = .file content ∧ file.1.isHidden = false ∧
    file.1.Promises before format

theorem isManifest_iff {file : FileName × Item} : isManifest file = true ↔ Selected file := by
  obtain ⟨name, item⟩ := file
  cases item with
  | folder => simp [isManifest, Selected]
  | file content =>
    simp only [isManifest, Selected, Bool.true_and, Bool.and_eq_true, Bool.not_eq_true',
      Option.isSome_iff_exists, FileName.format?_eq_some_iff, Item.file.injEq]
    constructor
    · rintro ⟨hshown, format, before, h⟩
      exact ⟨content, before, format, rfl, hshown, h⟩
    · rintro ⟨-, before, format, -, hshown, h⟩
      exact ⟨hshown, format, before, h⟩

end Directory

end TemplateRouter
