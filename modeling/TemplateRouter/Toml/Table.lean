import TemplateRouter.Toml.Moment
/-
Tables of a TOML document, and how its statements fill them.
-/
namespace TemplateRouter.Toml

/-- How a table came about, which decides what may be added to it: by its own header, on the way
to another header, on the way to a dotted key, or in braces. -/
inductive Origin where
  | header
  | implied
  | dotted
  | inline
  deriving Repr, DecidableEq

/-- A number that no word can hold has no value but is no mistake in the text. Of a list of tables
that headers build the latest comes first. -/
inductive Value where
  | string (s : String)
  | int (n : Int)
  | float (x : Float)
  | tooLarge
  | bool (b : Bool)
  | moment (m : Moment)
  | array (items : List Value)
  | tables (items : List (List (String × Value)))
  | table (origin : Origin) (entries : List (String × Value))
  deriving Inhabited

abbrev Entries := List (String × Value)

namespace Entries

/-- Changes the value of a key, which may be missing; the change may be refused. -/
def alter (key : String) (f : Option Value → Option Value) : Entries → Option Entries
  | [] => (f none).map fun v => [(key, v)]
  | (k, v) :: rest =>
    if k = key then (f (some v)).map fun v => (k, v) :: rest
    else (alter key f rest).map ((k, v) :: ·)

/-- Changes the table at a path of headers. What is missing on the way is implied, and a list of
tables stands for its latest one. -/
def within (f : Entries → Option Entries) : List String → Entries → Option Entries
  | [], es => f es
  | key :: path, es =>
    alter key (fun
      | none => (within f path []).map (.table .implied)
      | some (.table .inline _) => none
      | some (.table origin es) => (within f path es).map (.table origin)
      | some (.tables (es :: rest)) => (within f path es).map fun es => .tables (es :: rest)
      | some _ => none) es

def openTable (path : List String) (key : String) : Entries → Option Entries :=
  within (alter key fun
    | none => some (.table .header [])
    | some (.table .implied es) => some (.table .header es)
    | some _ => none) path

def openItem (path : List String) (key : String) : Entries → Option Entries :=
  within (alter key fun
    | none => some (.tables [[]])
    | some (.tables items) => some (.tables ([] :: items))
    | some _ => none) path

/-- Sets a key that has no value yet, perhaps inside other keys; what is implied on the way counts as
made by dotted keys from then on. `own` tells whether the table belongs to the statement: the one it
stands in, or one without a header. -/
def put (value : Value) : List String → String → Bool → Entries → Option Entries
  | [], key, own, es =>
    if own then alter key (fun
      | none => some value
      | some _ => none) es
    else none
  | k :: path, key, _, es =>
    alter k (fun
      | none => (put value path key true []).map (.table .dotted)
      | some (.table .dotted es) | some (.table .implied es) =>
        (put value path key true es).map (.table .dotted)
      | some (.tables (es :: rest)) =>
        (put value path key false es).map fun es => .tables (es :: rest)
      | some _ => none) es

def assign (header path : List String) (key : String) (value : Value) :
    Entries → Option Entries :=
  within (put value path key true) header

end Entries

end TemplateRouter.Toml
