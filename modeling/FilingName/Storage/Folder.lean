import FilingName.Storage.Path
import FilingName.Text.Quoted

/-!
The folder that the library works in: files and folders by their paths. A path is followed part by
part, and the first part that leads nowhere decides why nothing can be read.
-/
namespace FilingName.Storage

inductive Entry where
  | file (bytes : List UInt8)
  | folder

/-- Paths and what lies there. Folders on the way to an entry need none of their own. -/
structure Folder where
  entries : List (Path × Entry) := []

inductive Problem where
  | notFound | notFolder | isFolder | nameTooLong
  deriving DecidableEq, Repr

namespace Problem

def number : Problem → Nat
  | notFound => 2
  | notFolder => 20
  | isFolder => 21
  | nameTooLong => 36

def words : Problem → Text
  | notFound => "No such file or directory".toList
  | notFolder => "Not a directory".toList
  | isFolder => "Is a directory".toList
  | nameTooLong => "File name too long".toList

def message (problem : Problem) (path : Path) : Text :=
  "[Errno ".toList ++ Text.ofNat problem.number ++ "] ".toList ++ problem.words ++ ": ".toList
    ++ Text.quoted path.text

end Problem

namespace Folder

def parent : Text := "..".toList

/-- Paths that lead up only lead to folders. -/
def leadsUp (path : Path) : Bool := path.parts.all (· == parent)

/-- What lies at the end of a path without detours. -/
def find? (folder : Folder) (path : Path) : Option Entry :=
  match folder.entries.find? (·.1 = path) with
  | some (_, entry) => some entry
  | none =>
    if leadsUp path || folder.entries.any fun entry =>
        entry.1.start = path.start && path.parts.isPrefixOf entry.1.parts
    then some .folder
    else none

/-- What a name and a whole path take in bytes is limited. -/
def nameLimit : Nat := 255

def pathLimit : Nat := 4095

def byteCount (t : Text) : Nat := t.foldl (fun count c => count + c.utf8Size) 0

/-- The folder that a folder is in; the root is its own. -/
def up (path : Path) : Path :=
  if leadsUp path then
    if path.start = .here then { path with parts := path.parts ++ [parent] } else path
  else { path with parts := path.parts.dropLast }

/-- Where a part leads from a path without detours. -/
def next (path : Path) (part : Text) : Path :=
  if part = parent then up path else { path with parts := path.parts ++ [part] }

/-- Follows parts one by one. Only a folder has anything under it, and the first part that leads
nowhere decides. -/
def follow (folder : Folder) (path : Path) : List Text → Except Problem Entry
  | [] =>
    match folder.find? path with
    | some entry => .ok entry
    | none => .error .notFound
  | part :: rest =>
    match folder.find? path with
    | some .folder =>
      if nameLimit < byteCount part then .error .nameTooLong
      else folder.follow (next path part) rest
    | some (.file _) => .error .notFolder
    | none => .error .notFound

/-- The bytes of the file that a path leads to. -/
def read (folder : Folder) (path : Path) : Except Problem (List UInt8) := do
  if pathLimit < byteCount path.text then throw .nameTooLong
  match ← folder.follow { path with parts := [] } path.parts with
  | .file bytes => return bytes
  | .folder => throw .isFolder

end Folder
end FilingName.Storage
