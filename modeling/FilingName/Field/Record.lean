import FilingName.Value

/-!
What is read from free text is a row of fields. A mark stands for every field that the text does not
supply; in a record such a field is null.
-/
namespace FilingName.Field

/-- Stands for a field that could not be made out, in records and in results. -/
def unknown : Text := ['x']

/-- The record of a row of fields, in their order. -/
def record (fields : List (String × Text)) : Value :=
  .mapping (fields.map fun (key, t) => (key.toList, if t = unknown then .null else .text t))

def missing (fields : List (String × Text)) : List Text :=
  (fields.filter (·.2 = unknown)).map (·.1.toList)

end FilingName.Field
