import FilingName.Proofs.Template.Preview
import FilingName.Proofs.Template.Process

/-! Templates of tokens whose outcomes are known. The outcomes make up all that previewing and
processing come to, and all that is reported on the way. -/
namespace FilingName.Template

/-- What is reported of a token, what becomes of it, and the text in its place. -/
structure Outcome where
  reported : List Diagnostic
  resolution : Resolution
  written : Text

instance : Nonempty Outcome := ⟨⟨[], .unknown ⟨[], none⟩, []⟩⟩

/-- A template is previewed and processed as its tokens come out, one after the other. -/
structure ComesOut (engine : Engine) (record : Value) (t : Text) (outcome : Token → Outcome) :
    Prop where
  final_eq : ∀ token ∈ tokens (parse t),
    (outcome token).resolution.final = .text (outcome token).written
  preview_eq : Operation.run engine (.preview (.text t) record) =
    ⟨(tokens (parse t)).flatMap fun token => (outcome token).reported,
      .ok (.preview (.text t)
        ⟨(parse t).flatMap (Segment.filled fun token => (outcome token).written),
          (tokens (parse t)).map fun token => (outcome token).resolution⟩)⟩
  process_eq : Operation.run engine (.process (.text t) record) =
    ⟨(tokens (parse t)).flatMap fun token => (outcome token).reported,
      .ok (.value (.text
        ((parse t).flatMap (Segment.filled fun token => (outcome token).written))))⟩

/-- The token is resolved with this outcome. -/
structure IsOutcome (engine : Engine) (record : Value) (token : Token) (outcome : Outcome) :
    Prop where
  resolve_eq : engine.resolve record token = ⟨outcome.reported, .ok outcome.resolution⟩
  final_eq : outcome.resolution.final = .text outcome.written

variable {engine : Engine} {record : Value} {t : Text} {outcome : Token → Outcome}

/-- Literals report nothing and have no entry of their own. -/
private theorem mapM_step_of_outcomes {segments : List Segment}
    (h : ∀ token ∈ tokens segments, IsOutcome engine record token (outcome token)) :
    ∃ steps, segments.mapM (engine.step record) =
        ⟨(tokens segments).flatMap fun token => (outcome token).reported, .ok steps⟩ ∧
      steps.map Prod.fst =
        (segments.map (Segment.filled fun token => (outcome token).written)).map Value.text ∧
      steps.filterMap Prod.snd = (tokens segments).map fun token => (outcome token).resolution := by
  induction segments with
  | nil => exact ⟨[], rfl, rfl, rfl⟩
  | cons segment segments ih =>
    cases segment with
    | literal text =>
      obtain ⟨steps, hsteps, hparts, hentries⟩ := ih h
      refine ⟨(.text text, none) :: steps, ?_, ?_, hentries⟩
      · rw [List.mapM_cons, Engine.step, pure_bind, hsteps, Logged.bind_of_ok rfl]
        simp
      · rw [List.map_cons, hparts]
        rfl
    | placeholder token =>
      rw [tokens_placeholder, List.forall_mem_cons] at h
      obtain ⟨steps, hsteps, hparts, hentries⟩ := ih h.2
      refine ⟨((outcome token).resolution.final, some (outcome token).resolution) :: steps, ?_,
        ?_, congrArg ((outcome token).resolution :: ·) hentries⟩
      · rw [List.mapM_cons, Engine.step, h.1.resolve_eq, hsteps]
        simp [Logged.bind_of_ok]
      · rw [List.map_cons, hparts, h.1.final_eq]
        rfl

theorem comesOut_of_outcomes
    (h : ∀ token ∈ tokens (parse t), IsOutcome engine record token (outcome token)) :
    ComesOut engine record t outcome := by
  obtain ⟨steps, hsteps, hparts, hentries⟩ := mapM_step_of_outcomes h
  have hpreview : engine.preview t record =
      ⟨(tokens (parse t)).flatMap fun token => (outcome token).reported,
        .ok ⟨(parse t).flatMap (Segment.filled fun token => (outcome token).written),
          (tokens (parse t)).map fun token => (outcome token).resolution⟩⟩ := by
    rw [Engine.preview, hsteps, Logged.bind_of_ok rfl, hparts, Engine.joinFrom_text, hentries,
      Logged.lift_bind_ok, ← List.flatMap_def]
    simp
  refine ⟨fun token hin => (h token hin).final_eq, ?_, ?_⟩
  · rw [Operation.run_preview, OnValues.templateText, hpreview, Operation.map_ofReported]
    rfl
  · rw [Operation.run_process, OnValues.templateText, process_eq_preview, hpreview,
      Operation.map_ofReported, Logged.map_log, Logged.map_outcome]
    rfl

end FilingName.Template
