import FilingName.Diagnostic
import FilingName.Text.LetterCase

/-! Modifiers change the letter case of a value, or leave only its initial. -/
namespace FilingName.Template

inductive Modifier where
  | upper | lower | title | initial
  deriving DecidableEq, Repr

namespace Modifier

def name : Modifier → Text
  | upper => "upper".toList
  | lower => "lower".toList
  | title => "title".toList
  | initial => "abbrev".toList

def all : List Modifier := [upper, lower, title, initial]

/-- A modifier may be written in any letter case. -/
def ofName? (written : Text) : Option Modifier := all.find? (·.name = Text.lower written)

/-- The initial is one character, the first of the upper case of the first. -/
def apply : Modifier → Text → Text
  | upper, value => Text.upper value
  | lower, value => Text.lower value
  | title, value => Text.titleCase value
  | initial, [] => []
  | initial, c :: _ => (Text.upperOf c).take 1

end Modifier

/-- Applies the modifier of a name. An empty name changes nothing, and neither does an unknown one,
which is reported; of an empty value nothing is asked. -/
def modify (written value : Text) : Reported Text :=
  if written.isEmpty || value.isEmpty then pure value
  else
    match Modifier.ofName? written with
    | some modifier => pure (modifier.apply value)
    | none => do
      report (.unknownModifier written)
      return value

/-- Only the last modifier of a chain is applied. -/
def lastModifier (chain : Text) : Text := (Text.splitOn ':' chain).getLastD []

end FilingName.Template
