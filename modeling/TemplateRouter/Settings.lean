import TemplateRouter.Template
import TemplateRouter.Text
import TemplateRouter.Text.Utf8
/-
Settings that the environment gives: where the handlers are and how routes are compiled.
-/
namespace TemplateRouter

/-- Environment variables with the bytes of their values. -/
abbrev Environment := List (String × Bytes)

def Environment.text? (env : Environment) (name : String) : Option String :=
  (env.lookup name).bind Text.Utf8.decode?

def Text.lower (s : List Char) : List Char := s.map Char.toLower

namespace DirectoryPath

/-- The steps of a path: empty ones and later dots stand for nothing. -/
def components (path : Bytes) : Bool × List Bytes :=
  let absolute := path.head? == some 47
  let parts := Text.splitOn 47 path
  let first := if parts.head? == some [46] then [[46]] else []
  (absolute, first ++ (if first.isEmpty then parts else parts.tail).filter fun p =>
    !p.isEmpty && p != [46])

def same (a b : Bytes) : Bool := components a == components b

end DirectoryPath

structure Settings where
  handlersDir : Bytes := Text.Utf8.encode "handlers"
  hotReload : Bool := false
  sizeLimit : Nat := Template.defaultLimit

namespace Settings

/-- A switch word, in any case and with white space around it. -/
def readSwitch? (s : List Char) : Option Bool :=
  let word := String.ofList (Text.lower (Text.trim s))
  if ["1", "true", "yes", "on"].contains word then some true
  else if ["0", "false", "no", "off"].contains word then some false
  else none

/-- A size of 64 bits: decimal, or hexadecimal after `0x`. -/
def readSize? (s : List Char) : Option Nat :=
  match Text.trim s with
  | '0' :: 'x' :: digits => Text.Numeral.read? 16 (Nat.pow 2 64) digits
  | digits => Text.Numeral.read? 10 (Nat.pow 2 64) digits

/-- What is missing or unreadable keeps its default. -/
def ofEnvironment (env : Environment) : Settings where
  handlersDir := (env.lookup "ROUTESWITCH_HANDLERS_DIR").getD ({} : Settings).handlersDir
  hotReload := ((env.text? "ROUTESWITCH_HOT_RELOAD").bind fun s => readSwitch? s.toList).getD
    ({} : Settings).hotReload
  sizeLimit := ((env.text? "ROUTESWITCH_REGEX_SIZE_LIMIT").bind fun s => readSize? s.toList).getD
    ({} : Settings).sizeLimit

def isDefault (s : Settings) : Bool :=
  let d : Settings := {}
  DirectoryPath.same s.handlersDir d.handlersDir && s.hotReload == d.hotReload &&
    s.sizeLimit == d.sizeLimit

end Settings

end TemplateRouter
