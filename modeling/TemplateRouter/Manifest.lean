import TemplateRouter.Json.Value
import TemplateRouter.Toml.Statement
import TemplateRouter.Yaml.Value
/-
Manifests: the routes that a handler declares, written in one of three formats.

What fields there are beside the routes, and beside the path and methods of each, does not matter.
-/
namespace TemplateRouter

/-- A declared route: a URI template, and what is said about its methods. -/
structure Declaration where
  path : String
  methods : Json := .null
  deriving Inhabited

abbrev Manifest := List Declaration

namespace Manifest

/-- The value of a field that may be given once: none if it is missing. -/
def optional? {α : Type} (name : String) (fields : List (String × α)) : Option (Option α) :=
  match fields.filter fun (k, _) => k == name with
  | [] => some none
  | [(_, v)] => some (some v)
  | _ => none

/-- The value of a field that must be given once. -/
def required? {α : Type} (name : String) (fields : List (String × α)) : Option α :=
  (optional? name fields).join

namespace OfJson

open Json (Source StringPiece)

def string? : Source → Option String
  | .string ps => (Source.text? ps).map String.ofList
  | _ => none

def fields? (members : List (List StringPiece × Source)) : Option (List (String × Source)) :=
  members.mapM fun (k, v) => (Source.text? k).map fun k => (String.ofList k, v)

/-- A declaration is the third container from outside. -/
def methods? (v : Option Source) : Option Json :=
  match v with
  | some v => v.value (Source.maxDepth - 3)
  | none => some .null

def declaration? : Source → Option Declaration
  | .object members => do
    let fields ← fields? members
    let path ← required? "path" fields
    let methods ← optional? "methods" fields
    return ⟨← string? path, ← methods? methods⟩
  | .array [path] => (string? path).map (⟨·, .null⟩)
  | .array [path, methods] => do return ⟨← string? path, ← methods? (some methods)⟩
  | _ => none

def routes? : Source → Option Manifest
  | .array items => items.mapM declaration?
  | _ => none

def manifest? : Source → Option Manifest
  | .object members => do
    let fields ← fields? members
    match ← optional? "routes" fields with
    | some v => routes? v
    | none => some []
  | .array [] => some []
  | .array [v] => routes? v
  | _ => none

end OfJson

def ofJson? (text : List Char) : Option Manifest := (Json.Source.parse? text).bind OfJson.manifest?

namespace OfYaml

open Yaml (Document Tree)
open Yaml.Document (Reading)

/-- How many collections may be nested, the outermost included. -/
def maxDepth : Nat := 128

variable (d : Document)

def fields (t : Tree) : Reading (List (String × Tree)) := do
  match ← d.resolve t with
  | .mapping _ entries =>
    entries.mapM fun (k, v) => do return (String.ofList (← d.scalarText k), v)
  | .scalar _ [] true => pure []
  | _ => failure

/-- A declaration is the third collection from outside. -/
def declaration (t : Tree) : Reading Declaration := do
  let fields ← fields d t
  let path ← (required? "path" fields : Option Tree)
  let methods ← (optional? "methods" fields : Option (Option Tree))
  let path := String.ofList (← d.scalarText path)
  match methods with
  | some v => return ⟨path, ← d.value (maxDepth - 3) v⟩
  | none => return ⟨path, .null⟩

def routes (t : Tree) : Reading Manifest := do
  match ← d.resolve t with
  | .sequence _ items => items.mapM (declaration d)
  | .scalar _ [] true => pure []
  | _ => failure

def manifest : Reading Manifest := do
  let fields ← fields d d.root
  match ← (optional? "routes" fields : Option (Option Tree)) with
  | some v => routes d v
  | none => pure []

end OfYaml

def ofYaml? (text : List Char) : Option Manifest :=
  (Yaml.Document.parse? text).bind fun d => (OfYaml.manifest d |>.run d.maxJumps).map Prod.fst

namespace OfToml

open Toml (Value Entries)

/-- The key under which a moment stands in a value. -/
def momentKey : String := "$__toml_private_datetime"

mutual

/-- The JSON value of a TOML value: numbers have up to 64 bits. -/
def json? : Value → Option Json
  | .string s => some (.string s)
  | .int n => if -Int.pow 2 63 ≤ n ∧ n < Int.pow 2 64 then some (.int n) else none
  | .float x => some (if x.isFinite then .float x else .null)
  | .tooLarge => none
  | .bool b => some (.bool b)
  | .moment m => some (.object [(momentKey, .string (String.ofList m.render))])
  | .array items => (jsonItems? items).map .array
  | .tables items => (jsonTables? items).map fun items => .array items.reverse
  | .table _ entries => (jsonEntries? entries).map .ofMembers

def jsonItems? : List Value → Option (List Json)
  | [] => some []
  | v :: rest => (json? v).bind fun v => (jsonItems? rest).map (v :: ·)

def jsonEntries? : List (String × Value) → Option (List (String × Json))
  | [] => some []
  | (k, v) :: rest => (json? v).bind fun v => (jsonEntries? rest).map ((k, v) :: ·)

def jsonTables? : List (List (String × Value)) → Option (List Json)
  | [] => some []
  | es :: rest =>
    (jsonEntries? es).bind fun es => (jsonTables? rest).map (.ofMembers es :: ·)

end

mutual

def isBounded : Value → Bool
  | .tooLarge => false
  | .array items => areBounded items
  | .tables items => tablesBounded items
  | .table _ entries => entriesBounded entries
  | _ => true

def areBounded : List Value → Bool
  | [] => true
  | v :: rest => isBounded v && areBounded rest

def entriesBounded : List (String × Value) → Bool
  | [] => true
  | (_, v) :: rest => isBounded v && entriesBounded rest

def tablesBounded : List (List (String × Value)) → Bool
  | [] => true
  | es :: rest => entriesBounded es && tablesBounded rest

end

def string? : Value → Option String
  | .string s => some s
  | _ => none

def methods? (v : Option Value) : Option Json :=
  match v with
  | some v => json? v
  | none => some .null

def fieldsDeclare? (entries : Entries) : Option Declaration := do
  let path ← required? "path" entries
  let methods ← optional? "methods" entries
  if entriesBounded entries then return ⟨← string? path, ← methods? methods⟩ else none

def declaration? : Value → Option Declaration
  | .table _ entries => fieldsDeclare? entries
  | .array (path :: rest) => do return ⟨← string? path, ← methods? rest.head?⟩
  | _ => none

def routes? : Value → Option Manifest
  | .array items => items.mapM declaration?
  | .tables items => items.reverse.mapM fieldsDeclare?
  | _ => none

def manifest? (entries : Entries) : Option Manifest :=
  if entriesBounded (entries.filter fun (k, _) => k != "routes") then
    match entries.lookup "routes" with
    | some v => routes? v
    | none => some []
  else none

end OfToml

def ofToml? (text : List Char) : Option Manifest := (Toml.parse? text).bind OfToml.manifest?

inductive Format where
  | json
  | yaml
  | toml
  deriving Repr, DecidableEq

def Format.ofExtension? (extension : String) : Option Format :=
  match extension with
  | "json" => some .json
  | "yaml" | "yml" => some .yaml
  | "toml" => some .toml
  | _ => none

def parse? (f : Format) (text : List Char) : Option Manifest :=
  match f with
  | .json => ofJson? text
  | .yaml => ofYaml? text
  | .toml => ofToml? text

end Manifest

end TemplateRouter
