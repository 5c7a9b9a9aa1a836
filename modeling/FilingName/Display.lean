import FilingName.Console.Table
import FilingName.Failure
import FilingName.Field

/-!
What a run shows: tables of results and previews, warnings, errors, and the summary of warnings that
were held back. Warnings and errors are markup, so brackets in them may be taken for tags; tables
and summaries show text as it is.
-/
namespace FilingName.Display
open Console

/-- A piece of output, for results or for messages. -/
inductive Printed where
  | result (text : Text)
  | message (text : Text)
  deriving DecidableEq, Repr

/-- Work that prints on its way. -/
abbrev Action : Type → Type := Logged Printed Failure

def results (log : List Printed) : Text :=
  log.flatMap fun
    | .result text => text
    | .message _ => []

def messages (log : List Printed) : Text :=
  log.flatMap fun
    | .result _ => []
    | .message text => text

def printResult (text : Text) : Action Unit := Logged.entry (.result text)

def printMessage (text : Text) : Action Unit := Logged.entry (.message text)

/-- Prints markup in a colour as a message. -/
def printColored (color text : Text) : Action Unit :=
  let tag := '[' :: color ++ [']']
  match Markup.render (tag ++ text ++ "[/".toList ++ color ++ [']']) with
  | .ok shown => printMessage (print shown)
  | .error fault => ⟨[], .error (.markup fault)⟩

def warn (message : Text) : Action Unit :=
  printColored "yellow".toList ("Warning: ".toList ++ message)

def error (message : Text) : Action Unit :=
  printColored "red".toList ("Error: ".toList ++ message)

structure Row where
  field : Text
  input : Text
  template : Text
  output : Text

def resultColumns : List Column :=
  [⟨"Field".toList, false⟩, ⟨"Input".toList, true⟩, ⟨"Template".toList, true⟩,
    ⟨"Output".toList, true⟩]

def resultsTitle : Text := "Formatted Fields".toList

def resultsTable (title : Option Text) (rows : List Row) : Table where
  title := title
  columns := resultColumns
  rows := rows.map fun row => [row.field, row.input, row.template, row.output]

def previewColumns : List Column :=
  [⟨"Token".toList, false⟩, ⟨"Field".toList, true⟩, ⟨"Value".toList, true⟩,
    ⟨"Modifier".toList, true⟩, ⟨"Result".toList, true⟩]

/-- Stands for a field or a modifier that there is not. -/
def absent : Text := ['-']

def orAbsent (t : Text) : Text := if t.isEmpty then absent else t

def fieldCell (field : Value) : Except ValueFault Text :=
  match field with
  | .text t => .ok (orAbsent t)
  | v => if v.isBlank then .ok absent else .error (.cellNotText v.kind)

/-- One token and what became of it. -/
def previewRow (resolution : Template.Resolution) : Except ValueFault (List Text) := do
  let token := resolution.token.text
  let final ← resolution.final.textFor .substitute
  match resolution with
  | .unknown _ => return [token, absent, "unknown placeholder".toList, absent, final]
  | .missing _ field _ => return [token, ← fieldCell field, "missing".toList, absent, final]
  | .found _ field recorded modifier _ =>
    return [token, ← fieldCell field, recorded, orAbsent (modifier.getD []), final]

def previewTable (field : Field) (template : Text) (preview : Template.Engine.Preview) :
    Except ValueFault Table := do
  let heading := match field.word with
    | [] => []
    | c :: rest => Text.upperOf c ++ rest
  return {
    title := some (heading ++ " template: ".toList ++ template)
    columns := previewColumns
    rows := ← preview.resolutions.mapM previewRow }

/-- How often a message was held back, if more than once. -/
def repetition (count : Nat) : Text :=
  if 1 < count then " (x".toList ++ Text.ofNat count ++ [')'] else []

def summaryHeader (count : Nat) : Text :=
  "\nTemplate warnings (".toList ++ Text.ofNat count ++ "):".toList

def summaryLine (messages : List Text) (message : Text) : Text :=
  "  ⚠ ".toList ++ message ++ repetition (messages.count message)

/-- Every message once, in the order in which it first came; nothing where there is none. -/
def summary (messages : List Text) : Text :=
  if messages.isEmpty then []
  else
    print (summaryHeader messages.length)
      ++ (Text.distinct messages).flatMap fun message => print (summaryLine messages message)

end FilingName.Display
