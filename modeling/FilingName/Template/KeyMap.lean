import FilingName.Value

/-!
Key maps send placeholder names to the fields of a record. Short names stand for the same field as
the long ones; two of the date's names differ only in how the field is written.
-/
namespace FilingName.Template

/-- Names and their fields as a value, the form in which an engine takes a key map. -/
def keyMap (fields : List (String × String)) : Value :=
  .mapping (fields.map fun (name, field) => (name.toList, .text field.toList))

def dateFields : List (String × String) :=
  [("YYYY", "year"), ("YY", "year"), ("MM", "month"), ("M", "month"), ("DD", "day"), ("D", "day")]

def nameFields : List (String × String) :=
  [("SURNAME", "surname"), ("GIVEN", "given"), ("MIDDLE", "middle")]

def placeFields : List (String × String) :=
  [("COUNTRY", "country"), ("C", "country"), ("STATE", "state"), ("S", "state"),
    ("COUNTY", "county"), ("CO", "county"), ("CITY", "city"), ("CI", "city")]

/-- One map for a record that holds a date, a name and a place together. -/
def combinedFields : List (String × String) := dateFields ++ nameFields ++ placeFields

end FilingName.Template
