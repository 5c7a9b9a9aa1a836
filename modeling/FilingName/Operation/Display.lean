import FilingName.Display
import FilingName.Operation.OnValues

/-!
Tables of results and warnings from values of any kind. The name of a field and the title are
markup; what was read and written is shown as it is.
-/
namespace FilingName.OnValues
open Console Display

/-- The four items of a row. -/
def fourItems (row : Value) : Except ValueFault (Value × Value × Value × Value) :=
  match row.items with
  | .error _ => .error (.notUnpackable row.kind)
  | .ok [a, b, c, d] => .ok (a, b, c, d)
  | .ok items =>
    if items.length < 4 then .error (.tooFewItems 4 items.length) else .error (.tooManyItems 4)

/-- Null is an empty cell, and only text is a cell otherwise. -/
def fieldCell : Value → Except ValueFault Text
  | .null => .ok []
  | .text t => .ok t
  | v => .error (.cellNotText v.kind)

/-- A row whose field is still markup. -/
def row (v : Value) : Except ValueFault Row := do
  let (field, input, template, output) ← fourItems v
  let input ← blankOr .substitute input
  let template ← blankOr .substitute template
  let output ← output.textFor .substitute
  return ⟨← fieldCell field, input, template, output⟩

def title (v : Value) : Except Failure (Option Text) :=
  match v with
  | .text t => if t.isEmpty then .ok none else (Markup.renderEmoji t).map some |>.mapError .markup
  | v =>
    if v.isBlank then .ok none
    else
      match v.writeQuoted with
      | .ok written => .error (.value (.titleNotText written))
      | .error fault => .error (.value fault)

/-- Rows are complete before any markup is read, and fields are read before the title. -/
def resultsTable (rows heading : Value) : Except Failure Table := do
  let rows ← (do (← rows.items).mapM row : Except ValueFault _).mapError .value
  let rows ← rows.mapM fun row => do
    let field ← (Markup.renderEmoji row.field).mapError .markup
    return { row with field }
  return Display.resultsTable (← title heading) rows

def printResults (rows heading : Value) : Action Unit :=
  match resultsTable rows heading with
  | .ok table => printResult table.print
  | .error fault => ⟨[], .error fault⟩

/-- Warns of a value as it is written. -/
def warn (message : Value) : Action Unit :=
  match message.write with
  | .ok t => Display.warn t
  | .error fault => ⟨[], .error (.value fault)⟩

end FilingName.OnValues
