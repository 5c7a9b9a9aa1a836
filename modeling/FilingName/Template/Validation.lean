import FilingName.Template.Modifier
import FilingName.Template.Segment
import FilingName.Value

/-!
Validation finds the first reason why a template cannot be what its author meant: a brace outside
every token, then names that no field goes by, then modifiers that do not exist.
-/
namespace FilingName.Template

inductive Problem where
  | notText
  /-- The first piece of literal text that holds a brace. -/
  | strayBrace (literal : Text)
  | unknownPlaceholders (names : List Text)
  | unknownModifiers (modifiers : List Text)
  deriving DecidableEq, Repr

def Problem.message : Problem → Text
  | notText => "Template must be a string".toList
  | strayBrace literal => "Invalid brace syntax found in '".toList ++ literal ++ "'".toList
  | unknownPlaceholders names =>
    "Unknown placeholder(s): ".toList ++ Text.join ", ".toList names
  | unknownModifiers modifiers =>
    "Unknown modifier(s): ".toList ++ Text.join ", ".toList modifiers

def isBrace (c : Char) : Bool := c == '{' || c == '}'

def strayBrace? (segments : List Segment) : Option Text :=
  segments.findSome? fun
    | .literal text => if text.any isBrace then some text else none
    | .placeholder _ => none

/-- The names that are no keys, in the order of the tokens. -/
def unknownNames (keyMap : Value) : List Token → Except ValueFault (List Text)
  | [] => .ok []
  | token :: rest => do
    let known ← keyMap.holds token.name
    let names ← unknownNames keyMap rest
    return if known then names else token.name :: names

/-- A chain whose last modifier does not exist, under the name of that modifier; a chain that ends
in a colon has none and is named whole. -/
def badModifier? (token : Token) : Option Text :=
  token.chain.bind fun chain =>
    let last := lastModifier chain
    if (Modifier.ofName? last).isSome then none
    else some (if last.isEmpty then chain else last)

/-- The problem of a template, none when it is valid for the key map. -/
def problem? (keyMap : Value) (template : Text) : Except ValueFault (Option Problem) := do
  let segments := parse template
  match strayBrace? segments with
  | some literal => return some (.strayBrace literal)
  | none =>
    let names ← unknownNames keyMap (tokens segments)
    if !names.isEmpty then return some (.unknownPlaceholders (Text.distinct names))
    let modifiers := (tokens segments).filterMap badModifier?
    if !modifiers.isEmpty then return some (.unknownModifiers (Text.distinct modifiers))
    return none

end FilingName.Template
