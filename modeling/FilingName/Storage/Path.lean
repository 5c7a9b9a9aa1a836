import FilingName.Text

/-!
Paths of files. Empty parts and parts of a single point say nothing and are dropped, so every path
has one written form; parts of two points stay, for what they lead to depends on the folders.
-/
namespace FilingName.Storage

/-- Where a path starts. Exactly two slashes in front are kept apart from one. -/
inductive Start where
  | here | root | doubleRoot
  deriving DecidableEq, Repr

structure Path where
  start : Start
  parts : List Text
  deriving DecidableEq, Repr

namespace Path

def startOf (t : Text) : Start :=
  match (t.takeWhile (· == '/')).length with
  | 0 => .here
  | 2 => .doubleRoot
  | _ => .root

/-- A part that is neither empty nor a single point. -/
def counts (part : Text) : Bool := !(part.isEmpty || part == ['.'])

def ofText (t : Text) : Path := ⟨startOf t, (Text.splitOn '/' t).filter counts⟩

def slashes : Start → Text
  | .here => []
  | .root => ['/']
  | .doubleRoot => ['/', '/']

/-- The path that says nothing is written as a single point. -/
def text (path : Path) : Text :=
  let t := slashes path.start ++ Text.join ['/'] path.parts
  if t.isEmpty then ['.'] else t

end Path
end FilingName.Storage
