/-
The command line: its commands, and how its words are read. Words are texts here; what becomes of
bytes that are no text is left open.
-/
namespace TemplateRouter

/-- List the routes of a directory, or look paths up in them. -/
inductive Command where
  | routes (handlers : Option String) (json : Bool)
  | lookUp (handlers : Option String) (watch : Bool) (paths : List String)
  deriving Repr, DecidableEq

namespace CommandLine

inductive Page where
  | overview
  | routes
  | lookUp
  | help
  deriving Repr, DecidableEq

/-- Why words make no command. -/
inductive Refusal where
  | help (page : Page)
  | missingCommand
  | unknownCommand
  | unknownArgument
  | missingValue
  | needlessValue
  | conflict
  deriving Repr, DecidableEq

inductive Word where
  | separator
  | long (name : List Char) (value : Option (List Char))
  | short (letters : List Char)
  | plain
  deriving Repr, DecidableEq

/-- A single hyphen is a plain word, and the first equals sign ends the name of an option. -/
def Word.ofChars : List Char → Word
  | ['-', '-'] => .separator
  | '-' :: '-' :: cs =>
    let name := cs.takeWhile (· != '=')
    .long name (if name.length = cs.length then none else some (cs.drop (name.length + 1)))
  | '-' :: c :: cs => .short (c :: cs)
  | _ => .plain

/-- What a command accepts beside `--handlers` and `--help`: a switch, and paths or none. -/
structure Grammar where
  page : Page
  switch : List Char
  takesPaths : Bool

def Grammar.routes : Grammar := ⟨.routes, "json".toList, false⟩

def Grammar.lookUp : Grammar := ⟨.lookUp, "watch".toList, true⟩

structure Draft where
  handlers : Option String := none
  switch : Bool := false
  paths : List String := []
  deriving Repr, DecidableEq

/-- The option that waits to be settled: it may still want its value. -/
inductive Pending where
  | nothing
  | wanting
  | holding (value : String)
  deriving Repr, DecidableEq

namespace Draft

/-- Sets the directory, which may be done once and not to nothing. -/
def setHandlers (d : Draft) (value : String) : Except Refusal Draft :=
  if d.handlers.isSome then .error .conflict
  else if value.isEmpty then .error .missingValue
  else .ok { d with handlers := some value }

def setSwitch (d : Draft) : Except Refusal Draft :=
  if d.switch then .error .conflict else .ok { d with switch := true }

def settle (d : Draft) : Pending → Except Refusal Draft
  | .nothing => .ok d
  | .wanting => .error .missingValue
  | .holding value => d.setHandlers value

def addPaths (d : Draft) (paths : List String) : Draft := { d with paths := d.paths ++ paths }

/-- A switch and paths exclude one another. -/
def finish (d : Draft) : Except Refusal Draft :=
  if d.switch && !d.paths.isEmpty then .error .conflict else .ok d

end Draft

/-- Reads the words of a command. A word that is not known counts before a value that is wrong
but not settled yet. -/
def Grammar.read (g : Grammar) (d : Draft) (p : Pending) : List String → Except Refusal Draft
  | [] => (d.settle p).bind Draft.finish
  | word :: rest =>
    match Word.ofChars word.toList with
    | .separator =>
      if rest.isEmpty || g.takesPaths then
        (d.settle p).bind fun d => (d.addPaths rest).finish
      else .error .unknownArgument
    | .long name value =>
      if name = "handlers".toList then
        (d.settle p).bind fun d =>
          match value with
          | some value =>
            (d.setHandlers (String.ofList value)).bind fun d => g.read d .nothing rest
          | none => g.read d .wanting rest
      else if name = g.switch then
        if value.isSome then .error .needlessValue
        else
          (d.settle p).bind fun d => d.setSwitch.bind fun d => g.read d .nothing rest
      else if name = "help".toList then
        if value.isSome then .error .needlessValue
        else (d.settle p).bind fun _ => .error (.help g.page)
      else .error .unknownArgument
    | .short letters =>
      if letters.head? = some 'h' then (d.settle p).bind fun _ => .error (.help g.page)
      else .error .unknownArgument
    | .plain =>
      if p = .wanting then g.read d (.holding word) rest
      else if g.takesPaths then
        (d.settle p).bind fun d => g.read (d.addPaths [word]) .nothing rest
      else .error .unknownArgument

def helpPage : List String → Refusal
  | [] => .help .overview
  | ["routes"] => .help .routes
  | ["match"] => .help .lookUp
  | ["help"] => .help .help
  | _ => .unknownCommand

def isCommand (word : String) : Bool := ["routes", "match", "help"].contains word

/-- What is wrong with words that do not start with a command. -/
def refuse (word : String) (rest : List String) : Refusal :=
  match Word.ofChars word.toList with
  | .separator =>
    match rest with
    | [] => .missingCommand
    | next :: _ => if isCommand next then .unknownArgument else .unknownCommand
  | .long name value =>
    if name = "help".toList then
      if value.isSome then .needlessValue else .help .overview
    else .unknownArgument
  | .short letters =>
    if letters.head? = some 'h' then .help .overview else .unknownArgument
  | .plain => .unknownCommand

def parse : List String → Except Refusal Command
  | [] => .error .missingCommand
  | "routes" :: rest =>
    (Grammar.routes.read {} .nothing rest).map fun d => .routes d.handlers d.switch
  | "match" :: rest =>
    (Grammar.lookUp.read {} .nothing rest).map fun d => .lookUp d.handlers d.switch d.paths
  | "help" :: rest => .error (helpPage rest)
  | word :: rest => .error (refuse word rest)

end CommandLine

end TemplateRouter
