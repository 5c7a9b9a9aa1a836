import FilingName.Json.Reader
import FilingName.People.Person
import FilingName.Storage.Folder
import FilingName.Text.Utf8

/-! People files: a JSON list with a mapping for every person. -/
namespace FilingName.People.File

/-- What is wrong with a people file itself. -/
inductive Problem where
  | unreadable (problem : Storage.Problem)
  | malformed (fault : Json.SyntaxFault)
  | notList
  /-- Entries count from one. -/
  | notMapping (entry : Nat)
  deriving DecidableEq, Repr

/-- A path is shown as it was given, and by the system in its one written form. -/
def Problem.message (path : Text) : Problem → Text
  | unreadable problem =>
    "Cannot read people file ".toList ++ path ++ ": ".toList
      ++ problem.message (Storage.Path.ofText path)
  | malformed fault =>
    "Invalid JSON in people file ".toList ++ path ++ ": ".toList ++ fault.message
  | notList => "People file ".toList ++ path ++ " must contain a JSON list".toList
  | notMapping entry =>
    "Entry ".toList ++ Text.ofNat entry ++ " in ".toList ++ path ++ " is not an object".toList

inductive Fault where
  | problem (path : Text) (cause : Problem)
  /-- No path holds the character with the code point zero. -/
  | nullInPath
  | encoding (fault : Text.Utf8.Fault)
  | value (fault : ValueFault)
  deriving DecidableEq, Repr

def Fault.message : Fault → Text
  | problem path cause => cause.message path
  | nullInPath => "embedded null byte".toList
  | encoding fault => fault.message
  | value fault => fault.message

/-- The text of the file at a path, with line feeds for line ends. -/
def text (folder : Storage.Folder) (path : Text) : Except Fault Text :=
  if path.contains '\x00' then .error .nullInPath
  else
    match folder.read (Storage.Path.ofText path) with
    | .error problem => .error (.problem path (.unreadable problem))
    | .ok bytes =>
      match Text.Utf8.decode bytes with
      | .error fault => .error (.encoding fault)
      | .ok t => .ok (Text.Utf8.unifyLineEnds t)

def document (path t : Text) : Except Fault Value :=
  match Json.read t with
  | .ok value => .ok value
  | .error (.malformed reason position) =>
    .error (.problem path (.malformed (.ofPosition t reason position)))
  | .error (.value fault) => .error (.value fault)

/-- The persons of a list of values, of which the first has the number `entry`. -/
def persons (path : Text) (entry : Nat) : List Value → Except Fault (List Person)
  | [] => .ok []
  | .mapping entries :: rest => do
    match Person.ofMapping (.mapping entries) with
    | .error fault => throw (.value fault)
    | .ok person => return person :: (← persons path (entry + 1) rest)
  | _ :: _ => .error (.problem path (.notMapping entry))

def load (folder : Storage.Folder) (path : Text) : Except Fault (List Person) := do
  match ← document path (← text folder path) with
  | .list items => persons path 1 items
  | _ => throw (.problem path .notList)

end FilingName.People.File
