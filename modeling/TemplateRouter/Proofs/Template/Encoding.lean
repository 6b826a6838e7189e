import TemplateRouter.Proofs.Table.Acceptance
import TemplateRouter.Proofs.Template.Matching
import TemplateRouter.Regex
/-
The source of a template as an encoding of it: token by token, and no token's source begins like
another's. So the source keeps all of a template but the names, and the keys keep those.
-/
namespace TemplateRouter

/-- The numbers of the groups in a tree, in the order in which the groups open. -/
def Regex.Node.groupNumbers : Node → List Nat
  | empty | look _ | set _ => []
  | cat a b | alt a b => a.groupNumbers ++ b.groupNumbers
  | loop a _ _ _ => a.groupNumbers
  | group i a => i :: a.groupNumbers

namespace Template

open Regex (isMeta escapeText Node)

/-- What a token is cut from. -/
def Token.text : Token → List Char
  | char c => [c]
  | placeholder name => '{' :: (name ++ ['}'])

theorem Cut.text_eq {t : List Char} {ts : List Token} (h : Cut t ts) :
    ts.flatMap Token.text = t := by
  induction h with
  | nil => rfl
  | placeholder _ _ _ ih => simp [Token.text, ih]
  | char _ _ ih => simp [Token.text, ih]

theorem Cut.isKey {t : List Char} {ts : List Token} (h : Cut t ts) :
    ∀ name ∈ names ts, name ≠ [] ∧ ∀ c ∈ name, c.isAlphanum := by
  induction h with
  | nil => simp
  | placeholder hne hname _ ih =>
    rw [names_placeholder, List.forall_mem_cons]
    exact ⟨⟨hne, hname⟩, ih⟩
  | char _ _ ih => exact ih

/-- Tokens that differ at most in the name of a placeholder. -/
inductive Token.Renames : Token → Token → Prop
  | char (c : Char) : Renames (.char c) (.char c)
  | placeholder (name name' : List Char) : Renames (.placeholder name) (.placeholder name')

/-- Templates that differ at most in the names of their placeholders. -/
def Renames (t u : List Char) : Prop :=
  ∃ ts us, Cut t ts ∧ Cut u us ∧ List.Forall₂ Token.Renames ts us

theorem renames_iff {t u : List Char} :
    Renames t u ↔ List.Forall₂ Token.Renames (tokens t) (tokens u) := by
  constructor
  · rintro ⟨ts, us, ht, hu, h⟩
    rw [cut_iff.mp ht, cut_iff.mp hu] at h
    exact h
  · intro h
    exact ⟨_, _, cut_iff.mpr rfl, cut_iff.mpr rfl, h⟩

/-- A meta character that stands at the front of an escaped one is its backslash. -/
theorem eq_backslash_of_escapeText {c d : Char} {x y : List Char}
    (h : escapeText [c] ++ x = d :: y) (hd : isMeta d = true) : d = '\\' := by
  cases hc : isMeta c with
  | true =>
    rw [escapeText_cons_of_isMeta hc] at h
    exact (List.cons.inj h).1.symm
  | false =>
    rw [escapeText_cons_of_not_isMeta hc] at h
    rw [← (List.cons.inj h).1, hc] at hd
    cases hd

theorem escapeText_inj {c d : Char} {x y : List Char}
    (h : escapeText [c] ++ x = escapeText [d] ++ y) : c = d ∧ x = y := by
  have hb : isMeta '\\' = true := by decide
  cases hc : isMeta c with
  | true =>
    cases hd : isMeta d with
    | true => simpa [escapeText_cons_of_isMeta hc, escapeText_cons_of_isMeta hd] using h
    | false =>
      rw [escapeText_cons_of_isMeta hc, escapeText_cons_of_not_isMeta hd] at h
      rw [← (List.cons.inj h).1, hb] at hd
      cases hd
  | false =>
    cases hd : isMeta d with
    | true =>
      rw [escapeText_cons_of_not_isMeta hc, escapeText_cons_of_isMeta hd] at h
      rw [(List.cons.inj h).1, hb] at hc
      cases hc
    | false => simpa [escapeText_cons_of_not_isMeta hc, escapeText_cons_of_not_isMeta hd] using h

/-- The end of a source is the source of no token. -/
theorem Token.source_append_ne (a : Token) (x : List Char) : a.source ++ x ≠ ['$'] := by
  intro h
  cases a with
  | char c =>
    have hbackslash := eq_backslash_of_escapeText h (by decide)
    exact absurd hbackslash (by decide)
  | placeholder name => exact absurd (List.cons.inj h).1 (by decide)

/-- The source of a token tells where it ends and, but for a name, what the token is. -/
theorem Token.renames_of_source {a b : Token} {x y : List Char}
    (h : a.source ++ x = b.source ++ y) : a.Renames b ∧ x = y := by
  have hcapture : ∀ (c : Char) (x y : List Char), escapeText [c] ++ x ≠ segmentCapture ++ y := by
    intro c x y h
    have hbackslash := eq_backslash_of_escapeText (d := '(') h (by decide)
    exact absurd hbackslash (by decide)
  cases a with
  | char c =>
    cases b with
    | char d =>
      obtain ⟨rfl, hrest⟩ := escapeText_inj h
      exact ⟨.char c, hrest⟩
    | placeholder name => exact absurd h (hcapture c x y)
  | placeholder name =>
    cases b with
    | char d => exact absurd h.symm (hcapture d y x)
    | placeholder name' => exact ⟨.placeholder name name', List.append_cancel_left h⟩

theorem Token.Renames.source_eq {a b : Token} (h : a.Renames b) : a.source = b.source := by
  cases h with
  | char c => rfl
  | placeholder name name' => rfl

theorem renames_of_flatMap_source {ts us : List Token}
    (h : ts.flatMap Token.source ++ ['$'] = us.flatMap Token.source ++ ['$']) :
    List.Forall₂ Token.Renames ts us := by
  induction ts generalizing us with
  | nil =>
    cases us with
    | nil => exact .nil
    | cons b us =>
      rw [List.flatMap_cons, List.append_assoc] at h
      exact absurd h.symm (b.source_append_ne _)
  | cons a ts ih =>
    rw [List.flatMap_cons, List.append_assoc] at h
    cases us with
    | nil => exact absurd h (a.source_append_ne _)
    | cons b us =>
      rw [List.flatMap_cons, List.append_assoc] at h
      obtain ⟨hhead, hrest⟩ := Token.renames_of_source h
      exact .cons hhead (ih hrest)

theorem flatMap_source_of_renames {ts us : List Token} (h : List.Forall₂ Token.Renames ts us) :
    ts.flatMap Token.source = us.flatMap Token.source := by
  induction h with
  | nil => rfl
  | cons hhead _ ih => rw [List.flatMap_cons, List.flatMap_cons, hhead.source_eq, ih]

theorem source_eq_source_iff {t u : List Char} : source t = source u ↔ Renames t u := by
  rw [renames_iff, source_eq, source_eq]
  constructor
  · intro h
    exact renames_of_flatMap_source (List.cons.inj h).2
  · intro h
    rw [flatMap_source_of_renames h]

theorem eq_of_renames_of_names {ts us : List Token} (h : List.Forall₂ Token.Renames ts us)
    (hnames : names ts = names us) : ts = us := by
  induction h with
  | nil => rfl
  | cons hhead _ ih =>
    cases hhead with
    | char c => rw [ih hnames]
    | placeholder name name' =>
      rw [names_placeholder, names_placeholder, List.cons.injEq] at hnames
      rw [hnames.1, ih hnames.2]

theorem source_keys_inj {t u : List Char} :
    source t = source u ∧ keys t = keys u ↔ t = u := by
  constructor
  · rintro ⟨hsource, hkeys⟩
    rw [keys_eq, keys_eq] at hkeys
    have hrenames := renames_iff.mp (source_eq_source_iff.mp hsource)
    have htokens := eq_of_renames_of_names hrenames hkeys
    rw [← (cut_iff.mpr rfl : Cut t _).text_eq, htokens, (cut_iff.mpr rfl : Cut u _).text_eq]
  · rintro rfl
    exact ⟨rfl, rfl⟩

theorem groupNumbers_ofParts (l : List Node) :
    (Node.ofParts l).groupNumbers = l.flatMap Node.groupNumbers := by
  induction l with
  | nil => rfl
  | cons a l ih =>
    cases l with
    | nil => simp [Node.ofParts]
    | cons b l => exact congrArg (a.groupNumbers ++ ·) ih

theorem groupNumbers_atoms (i : Nat) (ts : List Token) :
    (atoms i ts).flatMap Node.groupNumbers = List.range' i (names ts).length := by
  induction ts generalizing i with
  | nil => rfl
  | cons t ts ih =>
    cases t with
    | char c => simpa [atoms, Node.groupNumbers] using ih i
    | placeholder name =>
      simpa [atoms, Node.groupNumbers, Regex.segmentNode, List.range'_succ] using ih (i + 1)

/-- The groups of a template's tree are one for each placeholder, in order. -/
theorem groupNumbers_tree (ts : List Token) :
    (tree ts).groupNumbers = List.range' 1 (names ts).length := by
  rw [tree, groupNumbers_ofParts, List.flatMap_cons, List.flatMap_append, groupNumbers_atoms]
  simp [Node.groupNumbers]

section Compile

open Regex (Engine)

variable [Engine]

/-- How a template ends as an expression: its source is one, with a group for each key and no
others, and nothing but its size can keep it from being compiled. -/
structure Compiles (template : String) : Prop where
  parses : ∃ r, Regex.compile {} (String.ofList (source template.toList)) = .ok r ∧
    r.root.groupNumbers = List.range' 1 (keys template.toList).length ∧
    r.groupCount = (keys template.toList).length
  compile_ok (limit : Nat) (c : Compiled) : compile template limit = .ok c →
    c.regex.groupCount = c.keys.length
  compile_error_iff (r : Regex) (limit : Nat) (e : Cause) :
    Regex.compile {} (String.ofList (source template.toList)) = .ok r →
    (compile template limit = .error e ↔ e = .sizeExceeded limit ∧ limit < Engine.size r)
  refused {α : Type} (route : SharedRoute α) (limit : Nat) (e : RouteError) :
    route.pattern = .template template → Entry.compile route limit = .error e →
    e = .invalidTemplate template (.sizeExceeded limit)

theorem compiles (template : String) : Compiles template := by
  constructor
  · refine ⟨_, compile_source template, ?_, ?_⟩
    · rw [expression, groupNumbers_tree, keys_eq]
    · rw [Regex.groupCount, expression, groupCount_tree, keys_eq]
  · intro limit c h
    obtain ⟨hroot, hkeys⟩ := compile_eq_ok h
    rw [Regex.groupCount, hroot, groupCount_tree, hkeys, List.length_map]
  · intro r limit e hr
    rw [compile_source, Except.ok.injEq] at hr
    rw [← hr]
    exact compile_eq_error_iff
  · intro α route limit e hpattern h
    obtain ⟨template', hpattern', -, rfl⟩ := Entry.compile_eq_error_iff.mp h
    rw [hpattern, RoutePattern.template.injEq] at hpattern'
    rw [hpattern']

/-- The source of a template encodes it token by token, always parses to an expression with the
placeholders as its groups, and together with the keys it can be told from any other. -/
theorem source_encodes (template : String) :
    ∃ ts, (∀ us, Cut template.toList us ↔ us = ts) ∧
      source template.toList = '^' :: ts.flatMap Token.source ++ ['$'] ∧
      keys template.toList = names ts ∧
      (∀ key ∈ keys template.toList, key ≠ [] ∧ ∀ c ∈ key, c.isAlphanum) ∧
      Compiles template ∧
      (∀ other : String, source template.toList = source other.toList ↔
        Renames template.toList other.toList) ∧
      ∀ other : String, source template.toList = source other.toList ∧
        keys template.toList = keys other.toList ↔ template = other := by
  refine ⟨tokens template.toList, fun us => cut_iff, source_eq _, keys_eq _, ?_,
    compiles template, fun other => source_eq_source_iff, ?_⟩
  · rw [keys_eq]
    exact (cut_iff.mpr rfl).isKey
  · intro other
    rw [source_keys_inj, String.toList_inj]

end Compile

attribute [local instance] Regex.Engine.counted

/-- A brace that opens no placeholder, between a backslash and a placeholder. -/
theorem source_encodes_nested :
    source "\\\x7ba\x7bb\x7d".toList = "^\\\\\\\x7ba([^/]+)$".toList ∧
      keys "\\\x7ba\x7bb\x7d".toList = [['b']] ∧
      Compiles "\\\x7ba\x7bb\x7d" ∧
      Renames "\\\x7ba\x7bb\x7d".toList "\\\x7ba\x7bcd\x7d".toList ∧
      ¬ Renames "\\\x7ba\x7bb\x7d".toList "\\\x7ba\x7bb".toList := by
  obtain ⟨ts, hcut, hsource, hkeys, -, hcompiles, hrenames, -⟩ :=
    source_encodes "\\\x7ba\x7bb\x7d"
  have hts : [.char '\\', .char '{', .char 'a', .placeholder ['b']] = ts :=
    (hcut _).mp (cut_iff.mpr (by decide +kernel))
  refine ⟨?_, ?_, hcompiles, ?_, ?_⟩
  · rw [hsource, ← hts]
    decide
  · rw [hkeys, ← hts]
    rfl
  · rw [← hrenames]
    decide +kernel
  · rw [← hrenames]
    decide +kernel

end Template

end TemplateRouter
