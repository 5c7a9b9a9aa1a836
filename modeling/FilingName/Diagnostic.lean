import FilingName.Logged
import FilingName.Value.Fault

/-!
Diagnostics: what a template asks for and the library does not know. A diagnostic never stops the
work, so results carry those that were reported on the way, also when the work fails later.
-/
namespace FilingName

inductive Diagnostic where
  | unknownPlaceholder (name : Text)
  | unknownModifier (modifier : Text)
  deriving DecidableEq, Repr

def Diagnostic.message : Diagnostic → Text
  | unknownPlaceholder name => "Unknown placeholder: ".toList ++ name
  | unknownModifier modifier => "Unknown modifier: ".toList ++ modifier

abbrev Reported : Type → Type := Logged Diagnostic ValueFault

def report (diagnostic : Diagnostic) : Reported Unit := Logged.entry diagnostic

end FilingName
