import FilingName.Field
import FilingName.People.Person

/-!
Several people in one piece of a filing name. Each is written by the template for names and without
blanks; what follows the last bar of the template goes between them.
-/
namespace FilingName.People
open Template

/-- Everything up to the last bar is the template for one person, the rest the delimiter. -/
def splitTemplate (template : Text) : Text × Text :=
  (Text.splitLast? '|' template).getD (template, [])

def defaultTemplate : Text :=
  Field.dotted [("GIVEN", none), ("SURNAME", none)] ++ "|+".toList

/-- An entry of a list of people. -/
inductive Entry where
  | person (person : Person)
  /-- Given name, middle name and surname as values of any kind. -/
  | named (given middle surname : Value)
  | value (value : Value)

/-- A blank value is an empty part; any other has to be text. -/
def part (value : Value) : Except ValueFault Text :=
  if value.isBlank then .ok [] else value.textFor .trim

/-- An entry that describes nobody still takes a place, as a person without a name. -/
def Entry.person? : Entry → Except ValueFault Person
  | person p => .ok p
  | named given middle surname => do
    return { given := ← part given, middle := ← part middle, surname := ← part surname }
  | value (.mapping entries) => Person.ofMapping (.mapping entries)
  | value _ => .ok {}

/-- One person by a template for names, with dashes for blanks. -/
def fragment (template : Text) (person : Person) : Reported Text := do
  return Text.dashed (← Field.name.render person.fullName template)

def Entry.fragment (template : Text) (entry : Entry) : Reported Text := do
  let person ← (entry.person? : Except ValueFault Person)
  People.fragment template person

/-- The fragments of all entries with the delimiter between neighbours. -/
def list (entries : List Entry) (template : Text) : Reported Text := do
  let (template, delimiter) := splitTemplate template
  let fragments ← entries.mapM (Entry.fragment template)
  return Text.join delimiter fragments

end FilingName.People
