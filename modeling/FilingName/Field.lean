import FilingName.Field.Date
import FilingName.Field.Name
import FilingName.Field.Place
import FilingName.Template.Engine

/-!
The three fields of a filing name: free text is read into a record, and a template of the field's
own placeholders writes the record out again.
-/
namespace FilingName

inductive Field where
  | date | name | place
  deriving DecidableEq, Repr

namespace Field
open Template

/-- The order in which fields are taken up. -/
def all : List Field := [date, name, place]

def word : Field → Text
  | date => "date".toList
  | name => "name".toList
  | place => "place".toList

def keyMap : Field → Value
  | date => Template.keyMap dateFields
  | name => Template.keyMap nameFields
  | place => Template.keyMap placeFields

/-- Tokens with points between them. -/
def dotted (tokens : List (String × Option String)) : Text :=
  Text.join ".".toList (tokens.map fun token =>
    Token.text ⟨token.1.toList, token.2.map String.toList⟩)

/-- Used where no template is given. -/
def defaultTemplate : Field → Text
  | date => dotted [("YYYY", none), ("MM", none), ("DD", none)]
  | name => dotted [("SURNAME", some "upper"), ("GIVEN", none)]
  | place => dotted [("COUNTRY", none), ("STATE", none), ("COUNTY", none), ("CITY", none)]

def orDefault (field : Field) (template : Text) : Text :=
  if template.isEmpty then field.defaultTemplate else template

/-- What the text supplies for the field. -/
def read : Field → Text → List (String × Text)
  | date, t => (Date.ofText t).fields
  | name, t => (Name.ofText t).fields
  | place, t => (Place.ofText countries t).fields

/-- The engine that a field is written with. -/
def engine (field : Field) : Engine := ⟨field.keyMap, .text unknown⟩

/-- The field as the template writes it; an empty template stands for the default one. -/
def render (field : Field) (t template : Text) : Reported Text :=
  field.engine.process (field.orDefault template) (record (field.read t))

end Field
end FilingName
