import FilingName.Console.Markup
import FilingName.People.File
import FilingName.Template.Validation

/-! Everything that can keep an operation from its result. -/
namespace FilingName

inductive Failure where
  | value (fault : ValueFault)
  | template (problem : Template.Problem)
  | peopleFile (fault : People.File.Fault)
  | markup (fault : Console.Markup.Fault)
  deriving DecidableEq, Repr

def Failure.message : Failure → Text
  | value fault => fault.message
  | template problem => problem.message
  | peopleFile fault => fault.message
  | markup fault => fault.message

end FilingName
