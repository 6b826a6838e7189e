import TemplateRouter.Text.Utf8
import TemplateRouter.Manifest
/-
Directories of manifests: file names, what stands under them, and which of them are manifests.
-/
namespace TemplateRouter

abbrev FileName := Bytes

namespace FileName

/-- What comes before the last dot and after it; a dot at the front divides nothing. -/
def divide (name : FileName) : Bytes × Option Bytes :=
  let after := (name.reverse.takeWhile (· != 46)).reverse
  let before := name.take (name.length - after.length - 1)
  if after.length = name.length || before.isEmpty || name == [46, 46] then (name, none)
  else (before, some after)

-- An extension that is no text counts as none, and a stem that is no text as empty.

def extension? (name : FileName) : Option String :=
  ((divide name).2.bind Text.Utf8.decode?).map fun s => String.ofList (s.toList.map Char.toLower)

def stem (name : FileName) : String := (Text.Utf8.decode? (divide name).1).getD ""

/-- A hidden file has a name that is text and starts with a dot. -/
def isHidden (name : FileName) : Bool :=
  (Text.Utf8.decode? name).any fun s => s.toList.head? == some '.'

def format? (name : FileName) : Option Manifest.Format :=
  (extension? name).bind Manifest.Format.ofExtension?

end FileName

inductive FileError where
  | missing
  | isFolder
  | notFolder
  | notText
  | refused (cause : String)
  deriving Repr, DecidableEq

def FileError.message : FileError → String
  | missing => "No such file or directory (os error 2)"
  | isFolder => "Is a directory (os error 21)"
  | notFolder => "Not a directory (os error 20)"
  | notText => "stream did not contain valid UTF-8"
  | refused cause => cause

inductive Content where
  | bytes (bytes : Bytes)
  | unread (cause : FileError)
  deriving Repr, DecidableEq, Inhabited

instance : Coe Bytes Content := ⟨.bytes⟩

/-- What stands under a name: a regular file, or else a folder. -/
inductive Item where
  | file (content : Content)
  | folder
  deriving Repr, DecidableEq, Inhabited

def Item.read : Option Item → Except FileError String
  | none => .error .missing
  | some folder => .error .isFolder
  | some (file (.unread cause)) => .error cause
  | some (file (.bytes bytes)) =>
    match Text.Utf8.decode? bytes with
    | some text => .ok text
    | none => .error .notText

/-- The contents of a directory in the order of some listing. -/
abbrev Directory := List (FileName × Item)

namespace Directory

/-- A manifest is a file with a known extension that is not hidden. -/
def isManifest (entry : FileName × Item) : Bool :=
  (match entry.2 with
    | .file _ => true
    | .folder => false) &&
  !entry.1.isHidden && entry.1.format?.isSome

def manifests (d : Directory) : Directory :=
  (d.filter isManifest).mergeSort fun a b => decide (a.1 ≤ b.1)

end Directory

def DirectoryPath.join (dir : Bytes) (name : FileName) : Bytes :=
  if dir.isEmpty || dir.getLast? == some 47 then dir ++ name else dir ++ 47 :: name

end TemplateRouter
