import TemplateRouter.Proofs.Template.Tokens
/-
The expression of a template: its source text always parses, and to one tree that the tokens
give directly.
-/
namespace TemplateRouter

/-- The tree of a placeholder's capture: as many characters as there are before a separator, at
least one. -/
def Regex.segmentNode : Regex.Node := .loop (.set (.compl (.singleton '/'))) 1 none true

namespace Regex.State

theorem skip_of_flags {f : Flags} (h : f = {}) (cs : List Char) : f.skip cs = cs := by
  rw [h]
  rfl

theorem literal_of_flags {f : Flags} (h : f = {}) (c : Char) :
    f.literal c = .set (.singleton c) := by
  rw [h]
  rfl

theorem nodes_append (l m : List Item) : nodes (l ++ m) = nodes l ++ nodes m := by
  induction l with
  | nil => rfl
  | cons i l ih => cases i <;> simp [nodes, ih]

@[simp] theorem push_groups (st : State) (a : Node) (depth : Nat) :
    (st.push a depth).groups = st.groups := rfl

theorem nodes_push (st : State) (a : Node) (depth : Nat) :
    nodes (st.push a depth).items.reverse = nodes st.items.reverse ++ [a] := by
  simp [push, nodes_append, nodes]

def afterToken (st : State) : Template.Token → State
  | .char c => st.push (.set (.singleton c))
  | .placeholder _ =>
    { st.push (.group (st.groups + 1) segmentNode) 3 with groups := st.groups + 1 }

@[simp] theorem afterToken_flags (st : State) (t : Template.Token) :
    (st.afterToken t).flags = st.flags := by
  cases t <;> rfl

@[simp] theorem afterToken_frames (st : State) (t : Template.Token) :
    (st.afterToken t).frames = st.frames := by
  cases t <;> rfl

@[simp] theorem afterToken_alternatives (st : State) (t : Template.Token) :
    (st.afterToken t).alternatives = st.alternatives := by
  cases t <;> rfl

theorem foldl_afterToken_eq {β : Type} {f : State → β} (h : ∀ st t, f (st.afterToken t) = f st)
    (st : State) (ts : List Template.Token) : f (ts.foldl afterToken st) = f st := by
  induction ts generalizing st with
  | nil => rfl
  | cons t ts ih => rw [List.foldl_cons, ih, h]

/-- No item of a sequence is as deep as an expression may be. -/
def Shallow (st : State) : Prop := ∀ i ∈ st.items, i.depth < maxDepth

theorem Shallow.push {st : State} (h : st.Shallow) (a : Node) {depth : Nat}
    (hdepth : depth < maxDepth) : (st.push a depth).Shallow :=
  List.forall_mem_cons.mpr ⟨hdepth, h⟩

theorem Shallow.foldl_afterToken {st : State} (h : st.Shallow) (ts : List Template.Token) :
    (ts.foldl afterToken st).Shallow := by
  induction ts generalizing st with
  | nil => exact h
  | cons t ts ih =>
    refine ih ?_
    cases t with
    | char c => exact h.push _ (by decide)
    | placeholder name => exact h.push _ (by decide)

theorem foldr_max_lt {depths : List Nat} {n : Nat} (hn : 0 < n) (h : ∀ d ∈ depths, d < n) :
    depths.foldr Nat.max 0 < n := by
  induction depths with
  | nil => exact hn
  | cons d depths ih =>
    obtain ⟨hd, hdepths⟩ := List.forall_mem_cons.mp h
    exact Nat.max_lt.mpr ⟨hd, ih hdepths⟩

theorem depthOf_le {depths : List Nat} {n : Nat} (hn : 0 < n) (h : ∀ d ∈ depths, d < n) :
    depthOf depths ≤ n := by
  match depths with
  | [] => exact Nat.zero_le n
  | [d] => exact Nat.le_of_lt (h d (List.mem_singleton_self d))
  | d :: d' :: depths => exact foldr_max_lt hn h

theorem Shallow.level {st : State} (h : st.Shallow) (halternatives : st.alternatives = []) :
    st.level.2 ≤ maxDepth := by
  rw [State.level, halternatives]
  exact depthOf_le (by decide) (List.forall_mem_map.mpr h)

variable [Properties]

/-- Reading a text from a state ends in a result, if there is enough fuel for the text. -/
def Reads (st : State) (cs : List Char) (r : Except SyntaxError State) : Prop :=
  ∀ n, cs.length ≤ n → readAll n st cs = r

theorem reads_nil {st : State} (hf : st.flags = {}) : st.Reads [] (.ok st) := by
  intro n _
  cases n with
  | zero => rfl
  | succ n => simp [readAll, skip_of_flags hf]

theorem Reads.step {st st' : State} {c : Char} {cs cs' : List Char} {r : Except SyntaxError State}
    (hf : st.flags = {}) (hstep : st.step c cs = .ok (st', cs')) (hle : cs'.length ≤ cs.length)
    (hr : st'.Reads cs' r) : st.Reads (c :: cs) r := by
  intro n hn
  cases n with
  | zero => simp at hn
  | succ n =>
    simp only [List.length_cons] at hn
    simp only [readAll, skip_of_flags hf, hstep, Except.bind]
    exact hr n (by omega)

theorem step_of_not_isMeta (st : State) {c : Char} (h : isMeta c = false) (cs : List Char) :
    st.step c cs = .ok (st.push (st.flags.literal c), cs) := by
  unfold step
  split <;> first | rfl | exact absurd h (by decide)

theorem step_escaped (st : State) {c : Char} (h : isMeta c = true) (cs : List Char) :
    st.step '\\' (c :: cs) = .ok (st.push (st.flags.literal c), cs) := by
  simp [step, Escaped.read_meta _ h, Except.map, pushEscaped]

theorem reads_char {st : State} (hf : st.flags = {}) (c : Char) {rest : List Char}
    {r : Except SyntaxError State} (hr : (st.push (.set (.singleton c))).Reads rest r) :
    st.Reads (escapeText [c] ++ rest) r := by
  rw [← literal_of_flags hf c] at hr
  cases hm : isMeta c with
  | false =>
    rw [Template.escapeText_cons_of_not_isMeta hm]
    exact .step hf (step_of_not_isMeta st hm rest) (Nat.le_refl _) hr
  | true =>
    rw [Template.escapeText_cons_of_isMeta hm]
    exact .step hf (step_escaped st hm rest) (Nat.le_succ _) hr

theorem reads_capture {st : State} (hf : st.flags = {}) (name : List Char) {rest : List Char}
    {r : Except SyntaxError State} (hr : (st.afterToken (.placeholder name)).Reads rest r) :
    st.Reads (Template.segmentCapture ++ rest) r := by
  let inner : State := st.openGroup {} true
  have hopen : st.step '(' ("[^/]+)".toList ++ rest) = .ok (inner, "[^/]+)".toList ++ rest) := by
    simp only [step, parenthesis, hf]
    rfl
  have hclass : inner.step '[' ("^/]+)".toList ++ rest) =
      .ok (inner.push (.set (.compl (.singleton '/'))) 1, "+)".toList ++ rest) := by
    rfl
  have hloop : (inner.push (.set (.compl (.singleton '/'))) 1).step '+' (')' :: rest) =
      .ok (inner.push segmentNode 2, ')' :: rest) := by
    rfl
  have hclose : (inner.push segmentNode 2).step ')' rest =
      .ok (st.afterToken (.placeholder name), rest) := by
    obtain ⟨flags, items, alternatives, frames, groups, names⟩ := st
    subst hf
    rfl
  refine .step hf hopen (Nat.le_refl _) ?_
  refine .step rfl hclass ?_ ?_
  · simp
  refine .step rfl hloop (Nat.le_refl _) ?_
  exact .step rfl hclose (Nat.le_refl _) hr

theorem reads_token {st : State} (hf : st.flags = {}) (t : Template.Token) {rest : List Char}
    {r : Except SyntaxError State} (hr : (st.afterToken t).Reads rest r) :
    st.Reads (t.source ++ rest) r := by
  cases t with
  | char c => exact reads_char hf c hr
  | placeholder name => exact reads_capture hf name hr

theorem reads_tokens {st : State} (hf : st.flags = {}) (ts : List Template.Token)
    {rest : List Char} {r : Except SyntaxError State}
    (hr : (ts.foldl afterToken st).Reads rest r) :
    st.Reads (ts.flatMap Template.Token.source ++ rest) r := by
  induction ts generalizing st with
  | nil => exact hr
  | cons t ts ih =>
    rw [List.flatMap_cons, List.append_assoc]
    exact reads_token hf t (ih (by simp [hf]) hr)

end Regex.State

namespace Template

open Regex (Node segmentNode)

/-- The members of a template's sequence between its anchors, with groups numbered from `i`. -/
def atoms (i : Nat) : List Token → List Node
  | [] => []
  | .char c :: ts => .set (.singleton c) :: atoms i ts
  | .placeholder _ :: ts => .group i segmentNode :: atoms (i + 1) ts

def remainder (i : Nat) (ts : List Token) : Node := .ofParts (atoms i ts ++ [.look .textEnd])

def tree (ts : List Token) : Node :=
  .ofParts (.look .textStart :: (atoms 1 ts ++ [.look .textEnd]))

theorem nodes_foldl_afterToken (st : Regex.State) (ts : List Token) :
    Regex.State.nodes (ts.foldl Regex.State.afterToken st).items.reverse =
      Regex.State.nodes st.items.reverse ++ atoms (st.groups + 1) ts := by
  induction ts generalizing st with
  | nil => simp [atoms]
  | cons t ts ih =>
    rw [List.foldl_cons, ih]
    cases t with
    | char c =>
      simp only [Regex.State.afterToken, Regex.State.nodes_push, Regex.State.push_groups, atoms,
        List.append_assoc, List.singleton_append]
    | placeholder name =>
      simp only [Regex.State.afterToken, Regex.State.nodes_push, atoms, List.append_assoc,
        List.singleton_append]

theorem flatMap_parts_atoms (i : Nat) (ts : List Token) :
    (atoms i ts).flatMap Node.parts = atoms i ts := by
  induction ts generalizing i with
  | nil => rfl
  | cons t ts ih => cases t <;> simp [atoms, Node.parts, ih]

theorem choice_seq_anchored (i : Nat) (ts : List Token) :
    Node.choice [.seq (.look .textStart :: (atoms i ts ++ [.look .textEnd]))] =
      .ofParts (.look .textStart :: (atoms i ts ++ [.look .textEnd])) := by
  have hparts : (Node.look .textStart :: (atoms i ts ++ [.look .textEnd])).flatMap Node.parts =
      .look .textStart :: (atoms i ts ++ [.look .textEnd]) := by
    simp [Node.parts, flatMap_parts_atoms]
  have hne : atoms i ts ++ [Node.look .textEnd] ≠ [] := by simp
  rw [Node.seq, hparts]
  obtain ⟨a, l, hl⟩ := List.exists_cons_of_ne_nil hne
  rw [hl]
  simp [Node.ofParts, Node.choice, Node.branches, Node.ofBranches]

section Properties

variable [Regex.Properties]

/-- The source of a template parses to the tree of its tokens. -/
theorem parse_source (t : List Char) : Regex.parse {} (source t) = .ok (tree (tokens t)) := by
  let start : Regex.State := Regex.State.push { flags := {} } (.look .textStart)
  let last : Regex.State := (tokens t).foldl Regex.State.afterToken start
  have hflags : last.flags = {} :=
    Regex.State.foldl_afterToken_eq Regex.State.afterToken_flags start (tokens t)
  have hcaret : Regex.State.step { flags := {} } '^' ((tokens t).flatMap Token.source ++ ['$']) =
      .ok (start, (tokens t).flatMap Token.source ++ ['$']) := rfl
  have hdollar : last.step '$' [] = .ok (last.push (.look .textEnd), []) := by
    simp only [Regex.State.step, hflags]
    rfl
  have hreads : Regex.State.Reads { flags := {} } (source t)
      (.ok (last.push (.look .textEnd))) := by
    rw [source_eq]
    refine .step rfl hcaret (Nat.le_refl _) ?_
    refine Regex.State.reads_tokens rfl (tokens t) ?_
    exact .step hflags hdollar (Nat.le_refl _) (Regex.State.reads_nil hflags)
  have hframes : (last.push (.look .textEnd)).frames = [] :=
    Regex.State.foldl_afterToken_eq Regex.State.afterToken_frames start (tokens t)
  have halternatives : (last.push (.look .textEnd)).alternatives = [] :=
    Regex.State.foldl_afterToken_eq Regex.State.afterToken_alternatives start (tokens t)
  have hnodes : Regex.State.nodes (last.push (.look .textEnd)).items.reverse =
      .look .textStart :: (atoms 1 (tokens t) ++ [.look .textEnd]) := by
    rw [Regex.State.nodes_push, nodes_foldl_afterToken]
    rfl
  have hshallow : (last.push (.look .textEnd)).Shallow := by
    have hstart : start.Shallow := List.forall_mem_singleton.mpr (by decide)
    exact (hstart.foldl_afterToken (tokens t)).push _ (by decide)
  have hdepth := hshallow.level halternatives
  rw [Regex.parse, hreads _ (Nat.le_refl _), Except.bind, Regex.State.finish, hframes]
  simp only [hdepth, if_true]
  simp only [Regex.State.level, Regex.State.sequence, halternatives, hnodes, List.map_singleton,
    List.reverse_singleton, choice_seq_anchored, tree]

/-- The expression a template is compiled to, if it is not too large. -/
def expression (template : String) : Regex :=
  ⟨String.ofList (source template.toList), {}, tree (tokens template.toList)⟩

theorem compile_source (template : String) :
    Regex.compile {} (String.ofList (source template.toList)) = .ok (expression template) := by
  rw [Regex.compile, String.toList_ofList, parse_source]
  rfl

end Properties

theorem compile_eq [Regex.Engine] (template : String) (limit : Nat) :
    compile template limit =
      if Regex.Engine.size (expression template) > limit then .error (.sizeExceeded limit)
      else .ok ⟨expression template, (names (tokens template.toList)).map String.ofList⟩ := by
  rw [compile, compile_source, keys_eq]

theorem compile_eq_error_iff [Regex.Engine] {template : String} {limit : Nat} {e : Cause} :
    compile template limit = .error e ↔
      e = .sizeExceeded limit ∧ limit < Regex.Engine.size (expression template) := by
  rw [compile_eq]
  by_cases hsize : limit < Regex.Engine.size (expression template)
  · simp [hsize, eq_comm]
  · simp [hsize]

end Template

end TemplateRouter
