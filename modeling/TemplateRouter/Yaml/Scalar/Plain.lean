import TemplateRouter.Yaml.Cursor
/-
Plain scalars: text without quotes, ended by what could be an indicator.
-/
namespace TemplateRouter.Yaml.Plain

def ends (flow : Bool) : List Char → Bool
  | ':' :: rest => atSpace rest
  | cs => atSpace cs || (flow && endsOr isFlowIndicator cs)

/-- A colon that neither ends a word nor belongs to one. -/
def strayColon (flow : Bool) : List Char → Bool
  | ':' :: c :: _ => flow && (isFlowIndicator c || c == '?')
  | _ => false

def word (flow : Bool) : Nat → Cursor → Option (List Char × Cursor)
  | 0, _ => none
  | fuel + 1, c =>
    match c.rest with
    | [] => some ([], c)
    | x :: rest =>
      if strayColon flow (x :: rest) then none
      else if ends flow (x :: rest) then some ([], c)
      else (word flow fuel c.skip).map fun (w, c) => (x :: w, c)

/-- The words of a scalar from `text` on, and whether the last gap goes over a line end. -/
def words (flow : Bool) (floor : Nat) :
    Nat → List Char → Gap → Cursor → Option (List Char × Bool × Cursor)
  | 0, _, _, _ => none
  | fuel + 1, text, gap, c =>
    if c.atDocumentMark || c.rest.head? == some '#' then some (text, gap.broken, c)
    else
      (word flow (c.rest.length + 1) c).bind fun (w, c) =>
        if w.isEmpty then some (text, gap.broken, c)
        else
          let text := text ++ gap.text ++ w
          (Gap.scan floor (c.rest.length + 1) {} c).bind fun (gap, next) =>
            if next.index == c.index then some (text, false, c)
            else if !flow && next.column < floor then some (text, gap.broken, next)
            else words flow floor fuel text gap next

/-- A scalar in a block that starts at column `floor`. -/
def scan (flow : Bool) (floor : Nat) (c : Cursor) : Option (List Char × Bool × Cursor) :=
  words flow floor (c.rest.length + 1) [] {} c

end TemplateRouter.Yaml.Plain
