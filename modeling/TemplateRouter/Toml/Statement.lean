import TemplateRouter.Toml.Number
import TemplateRouter.Toml.Quoted
/-
Statements: the headers and assignments that a TOML text is made of.
-/
namespace TemplateRouter.Toml

/-- A statement names a key inside others. -/
inductive Statement where
  | table (path : List String) (key : String)
  | item (path : List String) (key : String)
  | assign (path : List String) (key : String) (value : Value)

namespace Statement

def isKeyChar (c : Char) : Bool :=
  ('0' ≤ c && c ≤ '9') || ('a' ≤ c && c ≤ 'z') || ('A' ≤ c && c ≤ 'Z') || c == '_' || c == '-'

def key? (cs : List Char) : Option (String × List Char) :=
  match cs with
  | '"' :: _ | '\'' :: _ => (Quoted.line? cs).map fun (s, cs) => (String.ofList s, cs)
  | cs =>
    let word := cs.takeWhile isKeyChar
    if word.isEmpty then none else some (String.ofList word, cs.drop word.length)

/-- How many arrays and tables in braces may be nested, and how many keys with dots. -/
def maxDepth : Nat := 80

/-- Keys with dots between them: the last one, and those it lies in. -/
def keys? : Nat → List Char → Option (List String × String × List Char)
  | 0, _ => none
  | fuel + 1, cs =>
    (key? cs).bind fun (key, cs) =>
      match skipBlanks cs with
      | '.' :: cs =>
        (keys? fuel (skipBlanks cs)).map fun (path, last, cs) => (key :: path, last, cs)
      | cs => some ([], key, cs)

def dotted? (cs : List Char) : Option (List String × String × List Char) :=
  (keys? (cs.length + 1) cs).filter fun (path, _, _) => path.length < maxDepth

def skipComment? (cs : List Char) : Option (List Char) :=
  match cs with
  | '#' :: cs =>
    let rest := cs.dropWhile isLineChar
    if rest.isEmpty || (newline? rest).isSome then some rest else none
  | cs => some cs

def skip? : Nat → List Char → Option (List Char)
  | 0, _ => none
  | fuel + 1, cs =>
    (skipComment? (skipBlanks cs)).bind fun cs =>
      match newline? cs with
      | some rest => skip? fuel rest
      | none => some cs

def skipAll? (cs : List Char) : Option (List Char) := skip? (cs.length + 1) cs

def endsBare (c : Char) : Bool :=
  isBlank c || [',', ']', '}', '[', '{', '=', '#', '\n', '\r', '"', '\''].contains c

/-- A value without quotes; a date and a time may have a space between them. -/
def bare? (cs : List Char) : Option (Value × List Char) :=
  let first := cs.takeWhile fun c => !endsBare c
  let rest := cs.drop first.length
  let (text, rest) := match (Moment.date? first), rest with
    | some (_, []), ' ' :: d :: more =>
      if Bare.isDigit d then
        let second := (d :: more).takeWhile fun c => !endsBare c
        (first ++ ' ' :: second, (d :: more).drop second.length)
      else (first, rest)
    | _, _ => (first, rest)
  (Bare.value? text).map (·, rest)

mutual

def value? (depth : Nat) : Nat → List Char → Option (Value × List Char)
  | 0, _ => none
  | fuel + 1, cs =>
    match cs, depth with
    | '[' :: cs, depth + 1 =>
      (skipAll? cs).bind fun cs =>
        (items? depth fuel cs).map fun (items, cs) => (.array items, cs)
    | '{' :: cs, depth + 1 =>
      (skipAll? cs).bind fun cs =>
        (fields? depth [] fuel cs).map fun (entries, cs) => (.table .inline entries, cs)
    | '"' :: _, _ | '\'' :: _, _ =>
      (Quoted.string? cs).map fun (s, cs) => (.string (String.ofList s), cs)
    | cs, _ => bare? cs

def items? (depth : Nat) : Nat → List Char → Option (List Value × List Char)
  | 0, _ => none
  | fuel + 1, cs =>
    match cs with
    | ']' :: cs => some ([], cs)
    | cs =>
      (value? depth fuel cs).bind fun (v, cs) => (skipAll? cs).bind fun cs =>
        match cs with
        | ']' :: cs => some ([v], cs)
        | ',' :: cs =>
          (skipAll? cs).bind fun cs => (items? depth fuel cs).map fun (vs, cs) => (v :: vs, cs)
        | _ => none

/-- The fields of a table in braces, added to those before. Lines may end around the equals sign. -/
def fields? (depth : Nat) (entries : Entries) : Nat → List Char → Option (Entries × List Char)
  | 0, _ => none
  | fuel + 1, cs =>
    match cs with
    | '}' :: cs => some (entries, cs)
    | cs =>
      (dotted? cs).bind fun (path, key, cs) => (skipAll? cs).bind fun cs =>
        match cs with
        | '=' :: cs =>
          (skipAll? cs).bind fun cs => (value? depth fuel cs).bind fun (v, cs) =>
            (Entries.put v path key true entries).bind fun entries =>
              (skipAll? cs).bind fun cs =>
                match cs with
                | '}' :: cs => some (entries, cs)
                | ',' :: cs => (skipAll? cs).bind fun cs => fields? depth entries fuel cs
                | _ => none
        | _ => none

end

def assignment? (cs : List Char) : Option (Statement × List Char) :=
  (dotted? cs).bind fun (path, key, cs) =>
    match cs with
    | '=' :: cs =>
      (value? maxDepth (2 * cs.length + 2) (skipBlanks cs)).map fun (v, cs) =>
        (.assign path key v, cs)
    | _ => none

def header? (cs : List Char) : Option (List String × String × List Char) :=
  (dotted? (skipBlanks cs)).bind fun (path, key, cs) =>
    match cs with
    | ']' :: cs => some (path, key, cs)
    | _ => none

def read? (cs : List Char) : Option (Statement × List Char) :=
  match cs with
  | '[' :: '[' :: cs =>
    (header? cs).bind fun (path, key, cs) =>
      match cs with
      | ']' :: cs => some (.item path key, cs)
      | _ => none
  | '[' :: cs => (header? cs).map fun (path, key, cs) => (.table path key, cs)
  | cs => assignment? cs

/-- Nothing but a comment may follow a statement on its line. -/
def lineEnd? (cs : List Char) : Option (List Char) :=
  (skipComment? (skipBlanks cs)).bind fun cs => if cs.isEmpty then some [] else newline? cs

def all? : Nat → List Char → Option (List Statement)
  | 0, _ => none
  | fuel + 1, cs =>
    (skipAll? cs).bind fun cs =>
      if cs.isEmpty then some []
      else
        (read? cs).bind fun (s, cs) => (lineEnd? cs).bind fun cs => (all? fuel cs).map (s :: ·)

end Statement

/-- The entries a document has after its statements; assignments go to the latest header. -/
def Entries.run (header : List String) (entries : Entries) : List Statement → Option Entries
  | [] => some entries
  | .table path key :: rest =>
    (entries.openTable path key).bind fun es => run (path ++ [key]) es rest
  | .item path key :: rest =>
    (entries.openItem path key).bind fun es => run (path ++ [key]) es rest
  | .assign path key v :: rest =>
    (entries.assign header path key v).bind fun es => run header es rest

def parse? (cs : List Char) : Option Entries :=
  let cs := match cs with
    | '\ufeff' :: rest => rest
    | _ => cs
  (Statement.all? (cs.length + 1) cs).bind (Entries.run [] [])

end TemplateRouter.Toml
