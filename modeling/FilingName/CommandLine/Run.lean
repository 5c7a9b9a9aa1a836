import FilingName.CommandLine.Help
import FilingName.CommandLine.Request
import FilingName.Display

/-!
What a command line does: the fields that it supplies are formatted in their order, then the people,
and the results are shown in a table or line by line. Its result is the exit status.
-/
namespace FilingName.CommandLine
open Display

/-- A template counts as given when it is not empty. -/
def Request.templateFor (request : Request) (field : Field) : Text :=
  (request.template field).getD []

def Request.peopleTemplateText (request : Request) : Text := request.peopleTemplate.getD []

/-- A template that was given, by its option and with the key map that it is for. -/
def Request.givenTemplates (request : Request) : List (Setting × Value × Text) :=
  let fields := Field.all.map fun field =>
    (Setting.template field, field.keyMap, request.templateFor field)
  let people := (Setting.peopleTemplate, Field.name.keyMap, request.peopleTemplateText)
  ((fields ++ [people]).filter fun given => !given.2.2.isEmpty).map fun (setting, keyMap, t) =>
    (setting, keyMap, if setting = .peopleTemplate then (People.splitTemplate t).1 else t)

/-- What is wrong with the templates, each problem by the option that it came with. -/
def problems : List (Setting × Value × Text) → Except ValueFault (List Text)
  | [] => .ok []
  | (setting, keyMap, t) :: rest => do
    let found ← Template.problem? keyMap t
    let problems ← problems rest
    return match found with
      | some problem => (setting.long ++ ": ".toList ++ problem.message) :: problems
      | none => problems

def orFail {α : Type} (outcome : Except ValueFault α) : Action α :=
  ⟨[], outcome.mapError .value⟩

def validate (request : Request) : Action Nat := do
  let problems ← orFail (problems request.givenTemplates)
  if problems.isEmpty then
    printColored "green".toList "All templates are valid".toList
    return 0
  else
    problems.forM error
    return 1

/-- Warns of what was reported, or holds the messages back when the run is quiet. -/
def reportTo {α : Type} (quiet : Bool) (x : Reported α) : Action (α × List Text) := do
  let messages := x.log.map Diagnostic.message
  if quiet then return (← orFail x.outcome, messages)
  else
    messages.forM warn
    return (← orFail x.outcome, [])

def printPreview (field : Field) (t template : Text) : Action Unit := do
  let template := field.orDefault template
  let preview ← orFail (field.engine.preview template (Field.record (field.read t))).outcome
  let table ← orFail (previewTable field template preview)
  printResult table.print
  printResult (Console.print ("Result: ".toList ++ preview.result))

/-- The row of one field, and the messages held back. -/
def formatField (request : Request) (field : Field) (t : Text) : Action (Row × List Text) := do
  let template := request.templateFor field
  let (output, held) ← reportTo request.quiet (field.render t template)
  if request.preview then printPreview field t template
  return (⟨field.word, t, field.orDefault template,
    if request.sanitize then Text.dashed output else output⟩, held)

def formatFields (request : Request) : List Field → Action (List Row × List Text)
  | [] => return ([], [])
  | field :: rest =>
    match request.input field with
    | none => formatFields request rest
    | some t => do
      let (row, held) ← formatField request field t
      let (rows, heldLater) ← formatFields request rest
      return (row :: rows, held ++ heldLater)

/-- The row of all people, if there are any. -/
def formatPeople (request : Request) (people : List People.Person) :
    Action (List Row × List Text) := do
  if people.isEmpty then return ([], [])
  else
    let given := request.peopleTemplateText
    let template := if given.isEmpty then People.defaultTemplate else given
    let (output, held) ← reportTo request.quiet (People.list (people.map .person) template)
    let names := Text.join "; ".toList (people.map People.Person.fullName)
    return ([⟨"people".toList, names, template, output⟩], held)

/-- Persons of the command line come before those of the file. -/
def people (folder : Storage.Folder) (request : Request) :
    Except People.File.Fault (List People.Person) := do
  let persons := request.persons.map People.Person.ofText
  match request.peopleFile with
  | none => return persons
  | some path => return persons ++ (← People.File.load folder (Storage.Path.ofText path).text)

def Request.isEmpty (request : Request) : Bool :=
  Field.all.all (request.input · |>.isNone) && request.persons.isEmpty && request.peopleFile.isNone

def printRows (request : Request) (rows : List Row) : Action Unit :=
  if request.plain then rows.forM fun row => printResult (Console.print row.output)
  else printResult (resultsTable (some resultsTitle) rows).print

def formatAll (request : Request) (people : List People.Person) : Action Nat := do
  let (rows, held) ← formatFields request Field.all
  let (peopleRows, heldForPeople) ← formatPeople request people
  printRows request (rows ++ peopleRows)
  if request.quiet then printMessage (summary (held ++ heldForPeople))
  return 0

/-- A bad people file ends the run before anything is formatted. -/
def format (folder : Storage.Folder) (request : Request) : Action Nat := do
  if request.isEmpty then
    printMessage usage
    error ("Nothing to format (use --date, --name, --place, --person or --people-file)".toList)
    return 1
  else
    match people folder request with
    | .ok people => formatAll request people
    | .error (.problem path cause) =>
      error (cause.message path)
      return 1
    | .error fault => ⟨[], .error (.peopleFile fault)⟩

def Request.run (folder : Storage.Folder) (request : Request) : Action Nat :=
  if request.validate then CommandLine.validate request else format folder request

def run (folder : Storage.Folder) (arguments : List Text) : Action Nat :=
  match parse arguments with
  | .help => do printResult help; return 0
  | .version => do printResult versionLine; return 0
  | .misuse misuse => do
    printMessage (usage ++ programName ++ ": error: ".toList ++ misuse.message ++ ['\n'])
    return 2
  | .request request => request.run folder

/-- What a run does when it is interrupted. -/
def interrupted : Action Nat := do
  printColored "yellow".toList "\nOperation interrupted by user".toList
  return 130

end FilingName.CommandLine
