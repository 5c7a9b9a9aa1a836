import FilingName.Failure
import FilingName.People.Listing

/-!
The operations of the library on values of any kind. Each says which values it takes for absent ones
and which kinds it refuses, and leaves the rest to the definitions on text.
-/
namespace FilingName.OnValues

/-- The text that a pattern is searched for in. -/
def searchable : Value → Except ValueFault Text
  | .text t => .ok t
  | v => .error (.notSearchable v.kind)

/-- The text of a value that may be blank. -/
def blankOr (ability : Ability) (value : Value) : Except ValueFault Text :=
  if value.isBlank then .ok [] else value.textFor ability

/-- A template is text; anything else is an empty one. -/
def templateText : Value → Text
  | .text t => t
  | _ => []

def titleCase (text : Value) : Except ValueFault Text := do
  return Text.titleCase (← searchable text)

/-- The initial of a text, or of the first item of a list. -/
def initial : Value → Except ValueFault Value
  | .text t => .ok (.text (Template.Modifier.initial.apply t))
  | .list (item :: _) => do
    return .text (Template.Modifier.initial.apply (← item.textFor .toUpper))
  | .list [] => .ok (.list [])
  | .mapping _ => .error (.noEntry 0)
  | v => .error (.notIndexable v.kind)

def applyTo (modifier : Template.Modifier) (value : Value) : Except ValueFault Value :=
  match modifier with
  | .upper => do return .text (Text.upper (← value.textFor .toUpper))
  | .lower => do return .text (Text.lower (← value.textFor .toLower))
  | .title => do return .text (← titleCase value)
  | .initial => initial value

/-- Blank values and blank modifiers change nothing. -/
def applyModifier (value modifier : Value) : Reported Value := do
  if modifier.isBlank || value.isBlank then return value
  else
    let name ← modifier.textFor .toLower
    match Template.Modifier.ofName? name with
    | some modifier => applyTo modifier value
    | none =>
      report (.unknownModifier name)
      return value

def lastModifier (chain : Value) : Except ValueFault Text := do
  if chain.isBlank then return [] else return Template.lastModifier (← chain.textFor .split)

def format (name value : Value) : Except ValueFault Text := do
  Template.format (templateText name) (← value.textFor .testAscii)

/-- Null and the empty text are valid, for they stand for a default. -/
def problem? (keyMap : Value) (template : Value) : Except ValueFault (Option Template.Problem) :=
  match template with
  | .null => .ok none
  | .text t => if t.isEmpty then .ok none else Template.problem? keyMap t
  | _ => .ok (some .notText)

/-- Names in the order of their characters. -/
def sorted (names : List Text) : List Text := names.mergeSort fun a b => !decide (b < a)

/-- The names of countries, which are compared in lower case. -/
def knownCountries : Value → Except ValueFault (List Text)
  | .null => .ok Field.countries
  | v => do (← v.items).mapM (Value.textFor .toLower)

/-- The countries matter only to a text of one piece, so only then are they looked at. -/
def readPlace (t : Text) (countries : Value) : Except ValueFault Field.Place :=
  match Field.Place.pieces t with
  | [piece] => do return Field.Place.ofPieces (← knownCountries countries) [piece]
  | pieces => .ok (Field.Place.ofPieces [] pieces)

def parseField (field : Field) (text countries : Value) :
    Except ValueFault (List (String × Text)) := do
  let t ← blankOr .trim text
  match field with
  | .place => return (← readPlace t countries).fields
  | field => return field.read t

def isCountry (segment countries : Value) : Except ValueFault Bool := do
  let known ← knownCountries countries
  return Field.Place.isCountry known (← segment.textFor .trim)

/-- A template that is neither blank nor text writes nothing. -/
def render (field : Field) (text template : Value) : Reported Text := do
  let t ← (blankOr .trim text : Except ValueFault Text)
  match template with
  | .text template => field.render t template
  | v => if v.isBlank then field.render t [] else return []

def people (entries : List People.Entry) (template : Option Value) : Reported Text := do
  if entries.isEmpty then return []
  else
    match template with
    | none => People.list entries People.defaultTemplate
    | some v => People.list entries (← (blankOr .splitLast v : Except ValueFault Text))

def splitTemplate (template : Value) : Except ValueFault (Text × Text) := do
  return People.splitTemplate (← template.textFor .splitLast)

def sanitize (text : Value) : Except ValueFault Text := do
  if text.isBlank then return [] else return Text.dashed (← searchable text)

def loadPeople (folder : Storage.Folder) : Value → Except Failure (List People.Person)
  | .text path => (People.File.load folder path).mapError .peopleFile
  | v => .error (.value (.notPath v.kind))

end FilingName.OnValues
