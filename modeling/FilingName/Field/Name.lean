import FilingName.Field.Record

/-!
Personal names. The first word is the given name, the last one the surname, and the words between
them are middle names; a name of one word is a given name.
-/
namespace FilingName.Field

structure Name where
  given : Text := unknown
  middle : Text := unknown
  surname : Text := unknown
  deriving DecidableEq, Repr

namespace Name

def fields (name : Name) : List (String × Text) :=
  [("given", name.given), ("middle", name.middle), ("surname", name.surname)]

def ofWords : List Text → Name
  | [] => {}
  | [given] => { given }
  | [given, surname] => { given, surname }
  | given :: rest => ⟨given, Text.join " ".toList rest.dropLast, rest.getLastD unknown⟩

def ofText (t : Text) : Name := ofWords (Text.words t)

end Name
end FilingName.Field
