import FilingName.Field.Name
import FilingName.Value

/-! Persons, and how they are made from a mapping or from a name in free text. -/
namespace FilingName.People

/-- A part that is not known is empty. The relationship is carried along and never written. -/
structure Person where
  given : Text := []
  middle : Text := []
  surname : Text := []
  relationship : Text := []
  deriving DecidableEq, Repr

namespace Person

/-- What the first of the keys holds that does not hold a blank value, in writing. -/
def pick (entry : Value) : List String → Except ValueFault Text
  | [] => .ok []
  | key :: keys => do
    let value ← entry.lookUp (.text key.toList)
    if value.isBlank then pick entry keys else value.write

/-- Given and middle name go by two keys each. -/
def ofMapping (entry : Value) : Except ValueFault Person := do
  return {
    given := ← pick entry ["given_name", "givenName"]
    middle := ← pick entry ["middle_name", "middleName"]
    surname := ← pick entry ["surname"]
    relationship := ← pick entry ["relationship"] }

/-- Reads a name; a part that the name does not supply is empty. -/
def ofText (t : Text) : Person :=
  let name := Field.Name.ofText t
  let known (part : Text) : Text := if part = Field.unknown then [] else part
  { given := known name.given, middle := known name.middle, surname := known name.surname }

/-- The parts that are not blank, with one space between them. -/
def fullName (person : Person) : Text :=
  Text.join " ".toList
    ([person.given, person.middle, person.surname].filter fun part => !(Text.trim part).isEmpty)

end Person
end FilingName.People
