import FilingName.Proofs.Display.Summary
import FilingName.Proofs.Operation
import FilingName.Session

/-! What a session collects. Its messages are those that the steps since the last clearing report,
each with the key map and the handler that were in force when it was taken. A step that fails has
its part in them too, and checking a template adds nothing. -/
namespace FilingName
open Template (Engine)

namespace Step

/-- What a step reports when it is taken on its own. -/
def reported (engine : Engine) : Step → List Text
  | operation requested => (requested.run engine).log.map Diagnostic.message
  | report message => [message]
  | setKeyMap _ | setMissing _ | clear | summary => []

/-- The key map that a step puts in force. -/
def keyMap? : Step → Option Value
  | setKeyMap keyMap => some keyMap
  | _ => none

/-- The handler for missing values that a step puts in force. -/
def missing? : Step → Option Value
  | setMissing missing => some missing
  | _ => none

end Step

namespace Session
variable {engine : Engine} {session : Session} {steps : List Step}

/-- The engine behind a row of steps: of key maps and of handlers the last one that was set, and
what there was at first where none was. -/
def inForce (engine : Engine) (steps : List Step) : Engine where
  keyMap := (steps.filterMap Step.keyMap?).getLastD engine.keyMap
  missing := (steps.filterMap Step.missing?).getLastD engine.missing

/-- The session behind a row of steps. -/
def after (session : Session) (steps : List Step) : Session :=
  steps.foldl (fun session step => (session.step step).1) session

@[simp] private theorem after_nil (session : Session) : session.after [] = session := rfl

@[simp] private theorem after_cons (session : Session) (step : Step) (steps : List Step) :
    session.after (step :: steps) = (session.step step).1.after steps := rfl

private theorem after_append (session : Session) (steps more : List Step) :
    session.after (steps ++ more) = (session.after steps).after more := List.foldl_append

/-- A row of steps goes on from the session behind the steps before it. -/
private theorem run_append (session : Session) (steps more : List Step) :
    session.run (steps ++ more) = session.run steps ++ (session.after steps).run more := by
  induction steps generalizing session with
  | nil => rfl
  | cons step steps ih => simp only [List.cons_append, run, ih, after_cons]

private theorem inForce_nil (engine : Engine) : inForce engine [] = engine := rfl

private theorem inForce_cons (engine : Engine) (step : Step) (steps : List Step) :
    inForce engine (step :: steps) = inForce (inForce engine [step]) steps := by
  cases step <;> simp only [inForce, Step.keyMap?, Step.missing?, List.filterMap_cons,
    List.filterMap_nil, List.getLastD_cons, List.getLastD_nil]

private theorem inForce_append (engine : Engine) (steps more : List Step) :
    inForce engine (steps ++ more) = inForce (inForce engine steps) more := by
  induction steps generalizing engine with
  | nil => rfl
  | cons step steps ih => rw [List.cons_append, inForce_cons, ih, ← inForce_cons]

private theorem step_engine (session : Session) (step : Step) :
    (session.step step).1.engine = inForce session.engine [step] := by
  cases step <;> rfl

/-- Every step but a clearing keeps the messages and adds what it reports. -/
private theorem step_messages (session : Session) {step : Step} (h : step ≠ .clear) :
    (session.step step).1.messages = session.messages ++ step.reported session.engine := by
  cases step with
  | operation operation => rfl
  | report message => rfl
  | setKeyMap keyMap => exact (List.append_nil session.messages).symm
  | setMissing missing => exact (List.append_nil session.messages).symm
  | clear => exact absurd rfl h
  | summary => exact (List.append_nil session.messages).symm

private theorem after_engine (session : Session) (steps : List Step) :
    (session.after steps).engine = inForce session.engine steps := by
  induction steps generalizing session with
  | nil => rfl
  | cons step steps ih => rw [after_cons, ih, step_engine, ← inForce_cons]

/-- The reports of a row of steps, each with the engine behind the steps before it. -/
private theorem after_messages (session : Session) (h : ∀ step ∈ steps, step ≠ .clear) :
    (session.after steps).messages = session.messages ++ (steps.mapIdx fun i step =>
      step.reported (inForce session.engine (steps.take i))).flatten := by
  induction steps generalizing session with
  | nil => simp
  | cons step steps ih =>
    rw [List.forall_mem_cons] at h
    have hlater (i : Nat) : inForce session.engine ((step :: steps).take (i + 1)) =
        inForce (session.step step).1.engine (steps.take i) := by
      rw [List.take_succ_cons, inForce_cons, step_engine]
    rw [after_cons, ih _ h.2, step_messages session h.1, List.mapIdx_cons, List.flatten_cons,
      List.take_zero, inForce_nil, List.append_assoc]
    simp only [hlater]

/-- A row of steps divided where the messages were last cleared. -/
structure SinceCleared (steps before recent : List Step) : Prop where
  append_eq : before ++ recent = steps
  ends : before = [] ∨ ∃ earlier, before = earlier ++ [.clear]
  not_clear : ∀ step ∈ recent, step ≠ .clear

private theorem exists_sinceCleared (steps : List Step) :
    ∃ before recent, SinceCleared steps before recent := by
  by_cases h : .clear ∈ steps
  · obtain ⟨after, before, hsteps, hafter⟩ := List.eq_append_cons_of_mem (List.mem_reverse.mpr h)
    refine ⟨before.reverse ++ [.clear], after.reverse, ?_, .inr ⟨_, rfl⟩, ?_⟩
    · simpa using (congrArg List.reverse hsteps).symm
    · rintro step hin rfl
      exact hafter (List.mem_reverse.mp hin)
  · exact ⟨[], steps, rfl, .inl rfl, fun step hin he => h (he ▸ hin)⟩

/-- Where messages were just cleared there are none. -/
private theorem SinceCleared.messages_before {before recent : List Step}
    (h : SinceCleared steps before recent) : (after ⟨engine, []⟩ before).messages = [] := by
  obtain rfl | ⟨earlier, rfl⟩ := h.ends
  · rfl
  · rw [after_append]
    rfl

private theorem SinceCleared.messages_eq {before recent : List Step}
    (h : SinceCleared steps before recent) : (after ⟨engine, []⟩ steps).messages =
      (recent.mapIdx fun i step =>
        step.reported (inForce engine (before ++ recent.take i))).flatten := by
  rw [← h.append_eq, after_append, after_messages _ h.not_clear, h.messages_before, after_engine,
    List.nil_append]
  simp only [inForce_append]

private theorem run_summary (session : Session) (steps : List Step) :
    session.run (steps ++ [.summary]) = session.run steps ++ [(session.after steps,
      ⟨.ok (.value (.text (Display.summary (session.after steps).messages))), []⟩)] :=
  run_append session steps [.summary]

/-- A session without messages at first has those in the end, after any row of steps, which the
steps since the last clearing report on their own with the key map and the handler then in force.
Steps that check a template or ask for its names report nothing. The summary is empty exactly if
there are no messages, and counts them if each of them takes one line. -/
theorem reports_since_cleared_summed_up (engine : Engine) (steps : List Step) :
    let session := after ⟨engine, []⟩ steps
    (∃ before recent, SinceCleared steps before recent ∧ session.messages =
        (recent.mapIdx fun i step =>
          step.reported (inForce engine (before ++ recent.take i))).flatten) ∧
      (∀ engine template, ∀ operation ∈
          [Operation.validate template, .requireValid template, .required template],
        (Step.operation operation).reported engine = []) ∧
      ∃ out, run ⟨engine, []⟩ (steps ++ [.summary]) =
          run ⟨engine, []⟩ steps ++ [(session, ⟨.ok (.value (.text out)), []⟩)] ∧
        (out = [] ↔ session.messages = []) ∧
        (session.messages ≠ [] → (∀ message ∈ session.messages, Console.SingleLine message) →
          ∃ once, Display.Tallies session.messages once out) := by
  intro session
  obtain ⟨before, recent, hsince⟩ := exists_sinceCleared steps
  refine ⟨⟨before, recent, hsince, hsince.messages_eq⟩, fun engine template operation hchecks => ?_,
    Display.summary session.messages, run_summary _ steps, Display.summary_eq_nil_iff,
    Display.exists_tallies⟩
  rw [Step.reported, Operation.run_checks_log engine template hchecks, List.map_nil]

/-- A record of a given name. -/
private def ann : Value := .mapping [("given".toList, .text "Ann".toList)]

/-- A report that is cleared, a template that is refused, a modifier that does not exist, and names
that are known with one of two key maps; with the other key map and without a text for missing
values a template fails part way. -/
def mixedSteps : List Step :=
  [.operation (.process (.text "{AGE}".toList) ann), .clear,
    .operation (.requireValid (.text "{AGE}".toList)),
    .operation (.process (.text "{AGE}{GIVEN:shout}".toList) ann),
    .setKeyMap (.mapping [("AGE".toList, .text "age".toList)]),
    .operation (.preview (.text "{AGE}{GIVEN}".toList) ann), .setMissing .null,
    .operation (.process (.text "{GIVEN}{AGE}".toList) ann), .report "Done".toList]

theorem mixed_steps_summed_up :
    let engine : Engine := ⟨.mapping [("GIVEN".toList, .text "given".toList)], .text ['x']⟩
    let messages := ["Unknown placeholder: AGE".toList, "Unknown modifier: shout".toList,
      "Unknown placeholder: GIVEN".toList, "Unknown placeholder: GIVEN".toList, "Done".toList]
    (after ⟨engine, []⟩ mixedSteps).messages = messages ∧ messages ≠ [] ∧
      (∀ message ∈ messages, Console.SingleLine message) ∧
      ∃ out once, run ⟨engine, []⟩ (mixedSteps ++ [.summary]) = run ⟨engine, []⟩ mixedSteps ++
          [(after ⟨engine, []⟩ mixedSteps, ⟨.ok (.value (.text out)), []⟩)] ∧
        Display.Tallies messages once out := by
  intro engine messages
  have hmessages : (after ⟨engine, []⟩ mixedSteps).messages = messages := by decide +kernel
  have hsome : messages ≠ [] := by decide
  have hlines : ∀ message ∈ messages, Console.SingleLine message := by decide
  obtain ⟨-, -, out, hrun, -, hcounted⟩ := reports_since_cleared_summed_up engine mixedSteps
  rw [hmessages] at hcounted
  obtain ⟨once, htallies⟩ := hcounted hsome hlines
  exact ⟨hmessages, hsome, hlines, out, once, hrun, htallies⟩

end Session
end FilingName
