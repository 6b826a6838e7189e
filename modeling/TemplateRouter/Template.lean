import TemplateRouter.Regex
/-
URI templates: literal text and placeholders for one path segment each.

A template is compiled by escaping it and then putting a capture in place of each escaped
placeholder. Read directly, it is a list of tokens.
-/
namespace TemplateRouter.Template

def isNameChar (c : Char) : Bool := c.isAlphanum

/-- A placeholder at the front of a text: its name and what follows. -/
def placeholder? : List Char → Option (List Char × List Char)
  | '{' :: cs =>
    match cs.takeWhile isNameChar, cs.dropWhile isNameChar with
    | c :: name, '}' :: rest => some (c :: name, rest)
    | _, _ => none
  | _ => none

/-- The same in escaped text, where each brace has a backslash before it. -/
def escapedPlaceholder? : List Char → Option (List Char × List Char)
  | '\\' :: '{' :: cs =>
    match cs.takeWhile isNameChar, cs.dropWhile isNameChar with
    | c :: name, '\\' :: '}' :: rest => some (c :: name, rest)
    | _, _ => none
  | _ => none

theorem placeholder?_length {cs name rest : List Char} (h : placeholder? cs = some (name, rest)) :
    rest.length < cs.length := by
  unfold placeholder? at h
  split at h
  · next cs =>
    split at h
    · next heq =>
      have hle := (List.dropWhile_sublist (l := cs) isNameChar).length_le
      simp only [heq, List.length_cons] at hle
      simp only [Option.some.injEq, Prod.mk.injEq] at h
      simp only [← h.2, List.length_cons]
      omega
    · simp at h
  · simp at h

theorem escapedPlaceholder?_length {cs name rest : List Char}
    (h : escapedPlaceholder? cs = some (name, rest)) : rest.length < cs.length := by
  unfold escapedPlaceholder? at h
  split at h
  · next cs =>
    split at h
    · next heq =>
      have hle := (List.dropWhile_sublist (l := cs) isNameChar).length_le
      simp only [heq, List.length_cons] at hle
      simp only [Option.some.injEq, Prod.mk.injEq] at h
      simp only [← h.2, List.length_cons]
      omega
    · simp at h
  · simp at h

inductive Token where
  | char (c : Char)
  | placeholder (name : List Char)
  deriving Repr, DecidableEq

/-- A template cut from left to right into placeholders and literal characters. -/
def tokens (t : List Char) : List Token :=
  match _h : placeholder? t with
  | some (name, rest) => .placeholder name :: tokens rest
  | none =>
    match t with
    | [] => []
    | c :: rest => .char c :: tokens rest
termination_by t.length
decreasing_by
  · exact placeholder?_length _h
  · simp

/-- What a placeholder becomes: one or more characters other than the separator. -/
def segmentCapture : List Char := "([^/]+)".toList

/-- Replaces the placeholders of escaped text by captures and collects their names. -/
def substitute (t : List Char) : List Char × List (List Char) :=
  match _h : escapedPlaceholder? t with
  | some (name, rest) =>
    let (body, names) := substitute rest
    (segmentCapture ++ body, name :: names)
  | none =>
    match t with
    | [] => ([], [])
    | c :: rest =>
      let (body, names) := substitute rest
      (c :: body, names)
termination_by t.length
decreasing_by
  · exact escapedPlaceholder?_length _h
  · simp

/-- The regular expression of a template, anchored at both ends. -/
def source (t : List Char) : List Char :=
  '^' :: (substitute (Regex.escapeText t)).1 ++ ['$']

def keys (t : List Char) : List (List Char) := (substitute (Regex.escapeText t)).2

/-- A template as the router uses it: `keys` names the groups of `regex` in order. -/
structure Compiled where
  regex : Regex
  keys : List String

inductive Cause where
  | sizeExceeded (limit : Nat)
  | malformed (e : Regex.SyntaxError)
  deriving Repr, DecidableEq

def compile [Regex.Engine] (template : String) (limit : Nat) : Except Cause Compiled :=
  let t := template.toList
  match Regex.compile {} (String.ofList (source t)) with
  | .error e => .error (.malformed e)
  | .ok regex =>
    if Regex.Engine.size regex > limit then .error (.sizeExceeded limit)
    else .ok ⟨regex, (keys t).map String.ofList⟩

/-- The size limit where none is given: ten mebibytes. -/
def defaultLimit : Nat := 10 * Nat.pow 2 20

end TemplateRouter.Template
