import FilingName.Template.KeyMap
import FilingName.Template.Modifier
import FilingName.Template.Segment
import FilingName.Text.DecimalDigit

/-!
The engine replaces the placeholders of a template by the fields of a record. It goes through the
template once, so text that came from a record is never read as a placeholder.
-/
namespace FilingName.Template

/-- Only digits of the basic alphabet make a value a number. -/
def isNumber (value : Text) : Bool := !value.isEmpty && value.all Text.isDigit

/-- How a placeholder writes a field: month and day in at least two digits, the short year as the
last two digits of its number. What is no number stays as it is. -/
def format (name value : Text) : Except ValueFault Text :=
  if !isNumber value then .ok value
  else if name = "MM".toList ∨ name = "DD".toList then .ok (Text.padStart 2 '0' value)
  else if name = "YY".toList then
    if digitLimit < value.length then .error (.numeralTooLong value.length)
    else .ok (Text.padStart 2 '0' (Text.ofNat (Text.toNat value % 100)))
  else .ok value

/-- What became of one token. -/
inductive Resolution where
  /-- No field goes by the name, and the token stays in the text. -/
  | unknown (token : Token)
  /-- The field is missing, and something else stands in for it. -/
  | missing (token : Token) (field standIn : Value)
  /-- The field as the record has it, the modifier that was asked for, and the text written. -/
  | found (token : Token) (field : Value) (recorded : Text) (modifier : Option Text)
    (written : Text)

namespace Resolution

def token : Resolution → Token
  | unknown token => token
  | missing token _ _ => token
  | found token _ _ _ _ => token

/-- What stands in the place of the token. -/
def final : Resolution → Value
  | unknown token => .text token.text
  | missing _ _ standIn => standIn
  | found _ _ _ _ written => .text written

end Resolution

/-- An engine knows what placeholder names mean and what to write for a missing field. -/
structure Engine where
  keyMap : Value
  missing : Value

namespace Engine

/-- Follows a token's name to a field and to what the record holds there. -/
def resolve (engine : Engine) (record : Value) (token : Token) : Reported Resolution := do
  match ← engine.keyMap.lookUp (.text token.name) with
  | .null =>
    report (.unknownPlaceholder token.name)
    return .unknown token
  | field =>
    let value ← record.lookUp field
    if value.isMissing then return .missing token field engine.missing
    let recorded ← value.write
    let formatted ← format token.name recorded
    match token.chain with
    | none => return .found token field recorded none formatted
    | some chain =>
      let modifier := lastModifier chain
      return .found token field recorded (some modifier) (← modify modifier formatted)

/-- What one segment contributes to the result. -/
def part (engine : Engine) (record : Value) : Segment → Reported Value
  | .literal text => return .text text
  | .placeholder token => return (← engine.resolve record token).final

/-- Joins parts that are all text; `position` is that of the first of them. -/
def joinFrom (position : Nat) : List Value → Except ValueFault Text
  | [] => .ok []
  | .text t :: rest => do return t ++ (← joinFrom (position + 1) rest)
  | v :: _ => .error (.notJoinable position v.kind)

/-- The template with every placeholder replaced and the text between them kept. -/
def process (engine : Engine) (template : Text) (record : Value) : Reported Text := do
  let parts ← (parse template).mapM (engine.part record)
  joinFrom 0 parts

/-- A result together with what became of each token, in the order of the template. -/
structure Preview where
  result : Text
  resolutions : List Resolution

/-- A segment's contribution, and its resolution if it is a placeholder. -/
def step (engine : Engine) (record : Value) : Segment → Reported (Value × Option Resolution)
  | .literal text => return (.text text, none)
  | .placeholder token => do
    let resolution ← engine.resolve record token
    return (resolution.final, some resolution)

def preview (engine : Engine) (template : Text) (record : Value) : Reported Preview := do
  let steps ← (parse template).mapM (engine.step record)
  return ⟨← joinFrom 0 (steps.map (·.1)), steps.filterMap (·.2)⟩

end Engine
end FilingName.Template
