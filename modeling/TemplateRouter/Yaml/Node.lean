import TemplateRouter.Yaml.Layout
/-
Nodes: what the tokens of one document say.
-/
namespace TemplateRouter.Yaml

/-- The anchor a node is known by, and its full tag. -/
structure Properties where
  anchor : Option (List Char) := none
  tag : Option Bytes := none
  deriving Repr, DecidableEq, Inhabited

inductive Node where
  | reference (name : List Char)
  | scalar (properties : Properties) (text : List Char) (plain : Bool)
  | sequence (properties : Properties) (items : List Node)
  | mapping (properties : Properties) (entries : List (Node × Node))
  deriving Inhabited

abbrev Handles := List (List Char × Bytes)

namespace Handles

def standard : Handles :=
  [(['!'], [33]), (['!', '!'], Text.Utf8.encode "tag:yaml.org,2002:")]

def resolve (handles : Handles) (name : TagName) : Option Bytes :=
  if name.handle.isEmpty then some name.suffix
  else (handles.lookup name.handle).map (· ++ name.suffix)

end Handles

namespace Properties

def isEmpty (p : Properties) : Bool := p.anchor.isNone && p.tag.isNone

def read (handles : Handles) : List Token → Option (Properties × List Token)
  | .anchor a :: .tag t :: rest | .tag t :: .anchor a :: rest =>
    (handles.resolve t).map fun t => (⟨some a, some t⟩, rest)
  | .anchor a :: rest => some (⟨some a, none⟩, rest)
  | .tag t :: rest => (handles.resolve t).map fun t => (⟨none, some t⟩, rest)
  | rest => some ({}, rest)

end Properties

namespace Node

def empty : Node := .scalar {} [] true

/-- Whether the value or the next entry comes without a node. -/
def missing (ends : List Token) : List Token → Bool
  | t :: _ => ends.contains t
  | [] => false

def blockEnds : List Token := [.key, .value, .blockEnd]

mutual

/-- A node. Block collections may stand only in a block, and sequences that are not indented only
in a mapping of one. -/
def read (handles : Handles) (block dented : Bool) :
    Nat → List Token → Option (Node × List Token)
  | 0, _ => none
  | _ + 1, .reference name :: rest => some (.reference name, rest)
  | fuel + 1, ts =>
    (Properties.read handles ts).bind fun (p, ts) =>
      match ts with
      | .scalar text plain :: rest => some (.scalar p text plain, rest)
      | .flowSequenceStart :: rest =>
        (readItems handles fuel rest).map fun (items, rest) => (.sequence p items, rest)
      | .flowMappingStart :: rest =>
        (readPairs handles fuel rest).map fun (entries, rest) => (.mapping p entries, rest)
      | t :: rest =>
        if t == .blockEntry && dented then
          (readDented handles fuel ts).map fun (items, rest) => (.sequence p items, rest)
        else if t == .blockSequenceStart && block then
          (readEntries handles fuel rest).map fun (items, rest) => (.sequence p items, rest)
        else if t == .blockMappingStart && block then
          (readFields handles fuel rest).map fun (entries, rest) => (.mapping p entries, rest)
        else if p.isEmpty then none
        else some (.scalar p [] true, ts)
      | [] => none

/-- A node, or the empty one where an end comes first. -/
def readOr (handles : Handles) (block dented : Bool) (ends : List Token) :
    Nat → List Token → Option (Node × List Token)
  | 0, _ => none
  | fuel + 1, ts =>
    if missing ends ts then some (empty, ts) else read handles block dented fuel ts

def readEntries (handles : Handles) : Nat → List Token → Option (List Node × List Token)
  | 0, _ => none
  | fuel + 1, ts =>
    match ts with
    | .blockEntry :: ts =>
      (readOr handles true false [.blockEntry, .blockEnd] fuel ts).bind fun (item, ts) =>
        (readEntries handles fuel ts).map fun (items, ts) => (item :: items, ts)
    | .blockEnd :: ts => some ([], ts)
    | _ => none

/-- The entries of a sequence that is not indented, and ends where no entry follows. -/
def readDented (handles : Handles) : Nat → List Token → Option (List Node × List Token)
  | 0, _ => none
  | fuel + 1, ts =>
    match ts with
    | .blockEntry :: ts =>
      (readOr handles true false (.blockEntry :: blockEnds) fuel ts).bind fun (item, ts) =>
        (readDented handles fuel ts).map fun (items, ts) => (item :: items, ts)
    | ts => some ([], ts)

def readFields (handles : Handles) : Nat → List Token → Option (List (Node × Node) × List Token)
  | 0, _ => none
  | fuel + 1, ts =>
    match ts with
    | .key :: ts =>
      (readOr handles true true blockEnds fuel ts).bind fun (key, ts) =>
        (readValue handles true blockEnds fuel ts).bind fun (value, ts) =>
          (readFields handles fuel ts).map fun (entries, ts) => ((key, value) :: entries, ts)
    | .blockEnd :: ts => some ([], ts)
    | _ => none

def readValue (handles : Handles) (block : Bool) (ends : List Token) :
    Nat → List Token → Option (Node × List Token)
  | 0, _ => none
  | fuel + 1, ts =>
    match ts with
    | .value :: ts => readOr handles block block ends fuel ts
    | ts => some (empty, ts)

/-- The items of a flow sequence; a pair among them is a mapping by itself. -/
def readItems (handles : Handles) : Nat → List Token → Option (List Node × List Token)
  | 0, _ => none
  | fuel + 1, ts =>
    match ts with
    | .flowSequenceEnd :: ts => some ([], ts)
    | .key :: ts =>
      (readPairKey handles fuel ts).bind fun (key, ts) =>
        (readValue handles false [.flowEntry, .flowSequenceEnd] fuel ts).bind fun (value, ts) =>
          (readMoreItems handles fuel ts).map fun (items, ts) =>
            (.mapping {} [(key, value)] :: items, ts)
    | ts =>
      (read handles false false fuel ts).bind fun (item, ts) =>
        (readMoreItems handles fuel ts).map fun (items, ts) => (item :: items, ts)

def readMoreItems (handles : Handles) : Nat → List Token → Option (List Node × List Token)
  | 0, _ => none
  | fuel + 1, ts =>
    match ts with
    | .flowSequenceEnd :: ts => some ([], ts)
    | .flowEntry :: ts => readItems handles fuel ts
    | _ => none

/-- The key of a pair in a flow sequence; where it is missing, the token after it counts as read. -/
def readPairKey (handles : Handles) : Nat → List Token → Option (Node × List Token)
  | 0, _ => none
  | fuel + 1, ts =>
    if missing [.value, .flowEntry, .flowSequenceEnd] ts then some (empty, ts.tail)
    else read handles false false fuel ts

/-- The pairs of a flow mapping; a node without a key indicator is a key without a value. -/
def readPairs (handles : Handles) : Nat → List Token → Option (List (Node × Node) × List Token)
  | 0, _ => none
  | fuel + 1, ts =>
    match ts with
    | .flowMappingEnd :: ts => some ([], ts)
    | .key :: ts =>
      (readOr handles false false [.value, .flowEntry, .flowMappingEnd] fuel ts).bind
        fun (key, ts) =>
          (readValue handles false [.flowEntry, .flowMappingEnd] fuel ts).bind fun (value, ts) =>
            (readMorePairs handles fuel ts).map fun (entries, ts) => ((key, value) :: entries, ts)
    | ts =>
      (read handles false false fuel ts).bind fun (key, ts) =>
        (readMorePairs handles fuel ts).map fun (entries, ts) => ((key, empty) :: entries, ts)

def readMorePairs (handles : Handles) :
    Nat → List Token → Option (List (Node × Node) × List Token)
  | 0, _ => none
  | fuel + 1, ts =>
    match ts with
    | .flowMappingEnd :: ts => some ([], ts)
    | .flowEntry :: ts => readPairs handles fuel ts
    | _ => none

end

/-- Directives at the front of a document: one version at most, and each handle once. -/
def directives (versioned : Bool) (handles : Handles) : List Token → Option (Handles × List Token)
  | .version major minor :: rest =>
    if versioned || major != 1 || (minor != 1 && minor != 2) then none
    else directives true handles rest
  | .tagHandle handle start :: rest =>
    if (handles.lookup handle).isSome then none
    else directives versioned ((handle, start) :: handles) rest
  | rest => some (handles ++ Handles.standard, rest)

/-- Whether a document has no content, its start mark apart. -/
def isBare : List Token → Bool
  | .version .. :: _ | .tagHandle .. :: _ | .documentStart :: _ | .documentEnd :: _
  | .streamEnd :: _ => true
  | _ => false

/-- A document, with a start mark if it has directives or one at all. -/
def readDocument (ts : List Token) : Option (Node × List Token) :=
  let explicit := match ts with
    | .version .. :: _ | .tagHandle .. :: _ | .documentStart :: _ => true
    | _ => false
  let fuel := 4 * (ts.length + 1)
  if explicit then
    (directives false [] ts).bind fun (handles, ts) =>
      match ts with
      | .documentStart :: ts =>
        if isBare ts then some (empty, ts) else read handles true false fuel ts
      | _ => none
  else read Handles.standard true false fuel ts

/-- The only document of a text; a text without one is an empty node. -/
def ofTokens? (ts : List Token) : Option Node :=
  match ts with
  | [.streamEnd] => some empty
  | ts =>
    (readDocument ts).bind fun (node, ts) =>
      if ts.dropWhile (· == .documentEnd) == [.streamEnd] then some node else none

end Node

end TemplateRouter.Yaml
