import FilingName.Proofs.Display

/-! Reporters. A caller may hand one in, with a state of its own, and it may fail; otherwise there
is the console. To hand on what was reported when the work is done comes to the same as to hand on
each message when it comes up, so that a log stands for all reporters. -/
namespace FilingName

/-- A reporter takes one message after another. -/
abbrev Reporter (σ : Type) : Type := Text → ExceptT Failure (StateM σ) Unit

namespace Reporter
variable {σ α β : Type} {reporter : Reporter σ}

/-- Hands on what was reported, message by message. -/
def hear (reporter : Reporter σ) (log : List Diagnostic) : ExceptT Failure (StateM σ) Unit :=
  log.forM fun diagnostic => reporter diagnostic.message

/-- The work with a reporter: where that fails the work has its failure. -/
def follow (reporter : Reporter σ) (x : Reported α) : ExceptT Failure (StateM σ) α := do
  reporter.hear x.log
  ExceptT.mk (pure (x.outcome.mapError .value))

private theorem follow_of_ok {log : List Diagnostic} (a : α) :
    reporter.follow ⟨log, .ok a⟩ = (fun _ => a) <$> reporter.hear log := by
  rw [map_eq_pure_bind]
  rfl

private theorem follow_of_error {log : List Diagnostic} (fault : ValueFault) :
    (reporter.follow ⟨log, .error fault⟩ : ExceptT Failure (StateM σ) α) = (do
      reporter.hear log
      throw (.value fault)) := rfl

private theorem hear_append (log more : List Diagnostic) :
    reporter.hear (log ++ more) = (do reporter.hear log; reporter.hear more) := by
  induction log with
  | nil => simp [hear]
  | cons diagnostic log ih =>
    simp only [hear, List.cons_append, List.forM] at ih ⊢
    rw [ih, bind_assoc]

@[simp] private theorem follow_pure (a : α) : reporter.follow (pure a) = pure a := rfl

/-- Work in two steps is followed step by step. -/
theorem follow_bind (x : Reported α) (f : α → Reported β) :
    reporter.follow (x >>= f) = (do
      let a ← reporter.follow x
      reporter.follow (f a)) := by
  obtain ⟨log, fault | a⟩ := x
  · rw [Logged.bind_of_error rfl, follow_of_error, follow_of_error, bind_assoc]
    rfl
  · rw [Logged.bind_of_ok rfl, follow_of_ok, bind_map_left]
    simp only [follow, hear_append, bind_assoc]

/-- A row of steps is followed step by step. -/
theorem follow_mapM (f : α → Reported β) (l : List α) :
    reporter.follow (l.mapM f) = l.mapM fun a => reporter.follow (f a) := by
  induction l with
  | nil => rfl
  | cons a l ih => simp only [List.mapM_cons, follow_bind, ih, follow_pure]

/-- What comes of work with a reporter: the outcome of the work if the reporter takes every message,
and otherwise the failure with which the reporter ends it. -/
inductive Ends (reporter : Reporter σ) (state : σ) (x : Reported α) : Except Failure α × σ → Prop
  | taken {final : σ} : reporter.hear x.log state = (.ok (), final) →
      Ends reporter state x (x.outcome.mapError .value, final)
  | refused {failure : Failure} {final : σ} :
      reporter.hear x.log state = (.error failure, final) →
      Ends reporter state x (.error failure, final)

theorem follow_eq (x : Reported α) (state : σ) : reporter.follow x state =
    match reporter.hear x.log state with
    | (.ok _, final) => (x.outcome.mapError .value, final)
    | (.error failure, final) => (.error failure, final) := by
  simp only [follow, bind, ExceptT.bind, ExceptT.mk, StateT.bind, ExceptT.bindCont]
  rcases reporter.hear x.log state with ⟨failure | taken, final⟩ <;> rfl

theorem ends_follow (reporter : Reporter σ) (state : σ) (x : Reported α) :
    reporter.Ends state x (reporter.follow x state) := by
  rw [follow_eq]
  split
  · next final htaken => exact .taken htaken
  · next failure final hrefused => exact .refused hrefused

/-- Prints what the work prints, behind what stands there. -/
def perform (x : Display.Action α) : ExceptT Failure (StateM (List Display.Printed)) α :=
  ExceptT.mk fun printed => (x.outcome, printed ++ x.log)

/-- The console shows each message as a warning. -/
def console : Reporter (List Display.Printed) := fun message => perform (Display.warn message)

private theorem perform_bind (x : Display.Action α) (f : α → Display.Action β) :
    perform (x >>= f) = (do
      let a ← perform x
      perform (f a)) := by
  funext printed
  obtain ⟨log, failure | a⟩ := x
  · rfl
  · rw [Logged.bind_of_ok rfl]
    exact congrArg (Prod.mk _) (List.append_assoc printed log (f a).log).symm

private theorem console_hear (log : List Diagnostic) :
    console.hear log = perform ((log.map Diagnostic.message).forM Display.warn) := by
  induction log with
  | nil =>
    funext printed
    exact congrArg (Prod.mk _) (List.append_nil printed).symm
  | cons diagnostic log ih =>
    rw [List.map_cons, List.forM, perform_bind, ← ih]
    rfl

/-- A run of the program that is not quiet has the console for its reporter. -/
theorem console_follow (x : Reported α) :
    console.follow x = perform (Prod.fst <$> CommandLine.reportTo false x) := by
  have hreport : Prod.fst <$> CommandLine.reportTo false x = (do
      (x.log.map Diagnostic.message).forM Display.warn
      CommandLine.orFail x.outcome) := by
    simp [CommandLine.reportTo]
  rw [hreport, perform_bind, ← console_hear, follow]
  congr 1
  funext _ printed
  exact congrArg (Prod.mk _) (List.append_nil printed).symm

/-- Messages that are written in letters are shown as they are, each on a line of its own. -/
theorem console_hear_lettered {log : List Diagnostic}
    (h : ∀ diagnostic ∈ log, diagnostic.Lettered) (printed : List Display.Printed) :
    ∃ lines, console.hear log printed = (.ok (), printed ++ lines) ∧
      Display.results lines = [] ∧
      Display.messages lines = Console.unlines
        (log.map fun diagnostic => "Warning: ".toList ++ diagnostic.message) := by
  have hplain : ∀ message ∈ log.map Diagnostic.message, Console.Markup.Plain message :=
    List.forall_mem_map.mpr fun diagnostic hin => (h diagnostic hin).plain
  have hlines : ∀ message ∈ log.map Diagnostic.message, Console.SingleLine message :=
    List.forall_mem_map.mpr fun diagnostic hin => (h diagnostic hin).singleLine
  refine ⟨(log.map Diagnostic.message).map Display.warningLine, ?_,
    Display.results_warnings _, ?_⟩
  · rw [console_hear, Display.forM_warn hplain]
    rfl
  · rw [Display.messages_warnings hlines, List.map_map]
    rfl

end Reporter
end FilingName
