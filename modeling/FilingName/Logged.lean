/-!
Outcomes with a log. What was logged on the way is kept when the work fails later, and the logs of
successive steps follow one another.
-/
namespace FilingName

/-- An outcome and the entries logged until it was reached, first one first. -/
structure Logged (Entry Fault α : Type) where
  log : List Entry
  outcome : Except Fault α

namespace Logged

variable {Entry Fault α β : Type}

def pure (a : α) : Logged Entry Fault α := ⟨[], .ok a⟩

/-- After a fault nothing more is done and nothing more logged. -/
def bind (x : Logged Entry Fault α) (f : α → Logged Entry Fault β) : Logged Entry Fault β :=
  match x.outcome with
  | .ok a =>
    let y := f a
    ⟨x.log ++ y.log, y.outcome⟩
  | .error fault => ⟨x.log, .error fault⟩

instance : Monad (Logged Entry Fault) where
  pure := Logged.pure
  bind := Logged.bind

def entry (e : Entry) : Logged Entry Fault Unit := ⟨[e], .ok ()⟩

instance : MonadLift (Except Fault) (Logged Entry Fault) where
  monadLift outcome := ⟨[], outcome⟩

/-- The same work with another log and other names for its faults. -/
def convert {Entry' Fault' : Type} (log : List Entry → List Entry') (fault : Fault → Fault')
    (x : Logged Entry Fault α) : Logged Entry' Fault' α :=
  ⟨log x.log, x.outcome.mapError fault⟩

end Logged
end FilingName
