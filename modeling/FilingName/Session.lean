import FilingName.Display
import FilingName.Operation

/-!
Sessions: one engine and one list of messages through a row of steps. A step that fails keeps what
it reported before.
-/
namespace FilingName

inductive Step where
  | operation (operation : Operation)
  | setKeyMap (keyMap : Value)
  | setMissing (missing : Value)
  | report (message : Text)
  | clear
  | summary

structure Session where
  engine : Template.Engine
  messages : List Text := []

namespace Session

/-- What a step came to, with the messages that it added. -/
structure Result where
  outcome : Except Failure Answer
  added : List Text

def step (session : Session) : Step → Session × Result
  | .operation operation =>
    let work := operation.run session.engine
    let added := work.log.map Diagnostic.message
    ({ session with messages := session.messages ++ added }, ⟨work.outcome, added⟩)
  | .setKeyMap keyMap =>
    ({ session with engine := { session.engine with keyMap } }, ⟨.ok .nothing, []⟩)
  | .setMissing missing =>
    ({ session with engine := { session.engine with missing } }, ⟨.ok .nothing, []⟩)
  | .report message =>
    ({ session with messages := session.messages ++ [message] }, ⟨.ok .nothing, [message]⟩)
  | .clear => ({ session with messages := [] }, ⟨.ok .nothing, []⟩)
  | .summary => (session, ⟨.ok (.value (.text (Display.summary session.messages))), []⟩)

/-- The sessions after each step, with what the step came to. -/
def run (session : Session) : List Step → List (Session × Result)
  | [] => []
  | s :: steps =>
    let (next, result) := session.step s
    (next, result) :: next.run steps

end Session
end FilingName
