import FilingName.Operation
import FilingName.Proofs.Field.Place
import FilingName.Proofs.Logged
import FilingName.Proofs.Value

/-! What the operations come to, in terms of the engines and the fields that they are for. -/
namespace FilingName.Operation
open Template

@[simp] theorem ofReported_log {α : Type} (x : Reported α) : (ofReported x).log = x.log := rfl

@[simp] theorem ofReported_outcome {α : Type} (x : Reported α) :
    (ofReported x).outcome = x.outcome.mapError .value := rfl

theorem map_ofReported {α β : Type} (f : α → β) (x : Reported α) :
    f <$> ofReported x = ⟨x.log, f <$> x.outcome.mapError .value⟩ := by
  rw [Logged.ext_iff, Logged.map_log, Logged.map_outcome]
  exact ⟨rfl, rfl⟩

theorem run_process (engine : Engine) (template record : Value) :
    run engine (.process template record) = (fun t => Answer.value (.text t)) <$>
      ofReported (engine.process (OnValues.templateText template) record) := by
  simp only [run, bind_pure_comp]

theorem run_preview (engine : Engine) (template record : Value) :
    run engine (.preview template record) = Answer.preview template <$>
      ofReported (engine.preview (OnValues.templateText template) record) := by
  simp only [run, bind_pure_comp]

theorem run_render (engine : Engine) (field : Field) (t template : Value) :
    run engine (.render field t template) = (fun out => Answer.value (.text out)) <$>
      ofReported (OnValues.render field t template) := by
  simp only [run, bind_pure_comp]

/-- Where a field is written, the operation answers with what was written. -/
theorem run_render_of_ok {field : Field} {t template : Value} {log : List Diagnostic} {out : Text}
    (h : OnValues.render field t template = ⟨log, .ok out⟩) (engine : Engine) :
    run engine (.render field t template) = ⟨log, .ok (.value (.text out))⟩ := by
  rw [run_render, h, Logged.ext_iff, Logged.map_log, Logged.map_outcome]
  exact ⟨rfl, rfl⟩

theorem run_people (engine : Engine) (entries : List People.Entry) (template : Option Value) :
    run engine (.people entries template) = (fun out => Answer.value (.text out)) <$>
      ofReported (OnValues.people entries template) := by
  simp only [run, bind_pure_comp]

theorem run_personFromText (engine : Engine) (t : Text) :
    run engine (.personFromText (.text t)) = pure (.person (People.Person.ofText t)) := by
  cases t <;> rfl

theorem run_parseTemplate (engine : Engine) (template : Text) :
    run engine (.parseTemplate (.text template)) = pure (.segments (parse template)) := rfl

theorem run_splitTemplate (engine : Engine) (template : Text) :
    run engine (.splitTemplate (.text template)) =
      pure (.parts (People.splitTemplate template).1 (People.splitTemplate template).2) := rfl

theorem run_sanitize (engine : Engine) (t : Text) :
    run engine (.sanitize (.text t)) = pure (.value (.text (Text.dashed t))) := by
  cases t <;> rfl

theorem run_titleCase (engine : Engine) (t : Text) :
    run engine (.titleCase (.text t)) = pure (.value (.text (Text.titleCase t))) := rfl

private theorem run_format (engine : Engine) (name value : Text) :
    run engine (.format (.text name) (.text value)) =
      (fun t => Answer.value (.text t)) <$> ofExcept (Template.format name value) := rfl

theorem run_format_eq_ok {engine : Engine} {name value out : Text} :
    run engine (.format (.text name) (.text value)) = pure (.value (.text out)) ↔
      Template.format name value = .ok out := by
  rw [run_format]
  cases Template.format name value with
  | ok out' => simp [ofExcept, Logged.ext_iff, Except.mapError]
  | error fault => simp [ofExcept, Logged.ext_iff, Except.mapError]

private theorem ofExcept_bind_log {α β : Type} (x : Except ValueFault α) {f : α → Work β}
    (h : ∀ a, (f a).log = []) : (ofExcept x >>= f).log = [] := by
  cases x with
  | ok a =>
    rw [Logged.bind_of_ok rfl]
    exact h a
  | error fault => rfl

/-- To check a template, and to ask for the names in it, reports nothing. -/
theorem run_checks_log (engine : Engine) (template : Value) {operation : Operation}
    (h : operation ∈ [.validate template, .requireValid template, .required template]) :
    (run engine operation).log = [] := by
  simp only [List.mem_cons, List.not_mem_nil, or_false] at h
  rcases h with rfl | rfl | rfl
  · exact ofExcept_bind_log _ fun _ => rfl
  · refine ofExcept_bind_log _ fun problem => ?_
    cases problem <;> rfl
  · rfl

theorem run_validate_eq {engine : Engine} {template : Value} {verdict : Option Problem} :
    run engine (.validate template) = pure (.validity verdict) ↔
      OnValues.problem? engine.keyMap template = .ok verdict := by
  simp only [run]
  cases OnValues.problem? engine.keyMap template with
  | ok verdict' => simp [ofExcept, Logged.ext_iff, Except.mapError, Logged.bind_of_ok]
  | error fault => simp [ofExcept, Logged.ext_iff, Except.mapError, Logged.bind_of_error]

theorem blankOr_ofText? (ability : Ability) (t : Option Text) :
    OnValues.blankOr ability (.ofText? t) = .ok (t.getD []) := by
  cases t with
  | none => rfl
  | some t => cases t <;> rfl

theorem render_ofText? (field : Field) (t template : Option Text) :
    OnValues.render field (.ofText? t) (.ofText? template) =
      field.render (t.getD []) (template.getD []) := by
  rw [OnValues.render, blankOr_ofText?, Logged.lift_bind_ok]
  cases template <;> rfl

theorem run_render_ofText? (engine : Engine) (field : Field) (t template : Option Text)
    {log : List Diagnostic} {out : Text}
    (h : field.render (t.getD []) (template.getD []) = ⟨log, .ok out⟩) :
    run engine (.render field (.ofText? t) (.ofText? template)) =
      ⟨log, .ok (.value (.text out))⟩ :=
  run_render_of_ok ((render_ofText? field t template).trans h) engine

theorem run_parseField_date (engine : Engine) (t : Option Text) (countries : Value) :
    run engine (.parseField .date (.ofText? t) countries) =
      pure (.fields (Field.Date.ofText (t.getD [])).fields) := by
  simp only [run, OnValues.parseField, blankOr_ofText?]
  rfl

theorem run_parseField_name (engine : Engine) (t : Option Text) (countries : Value) :
    run engine (.parseField .name (.ofText? t) countries) =
      pure (.fields (Field.Name.ofText (t.getD [])).fields) := by
  simp only [run, OnValues.parseField, blankOr_ofText?]
  rfl

/-- A row of more pieces than one, or of none, is read without asking for countries. -/
theorem readPlace_of_not_single {t : Text} (h : ∀ piece, Field.Place.pieces t ≠ [piece])
    (countries : Value) (known : List Text) :
    OnValues.readPlace t countries = .ok (Field.Place.ofText known t) := by
  rw [Field.Place.ofText, Field.Place.ofPieces_of_not_single h known []]
  unfold OnValues.readPlace
  split
  · next piece hpieces => exact absurd hpieces (h piece)
  · rfl

theorem readPlace_of_known {countries : Value} {known : List Text}
    (hknown : OnValues.knownCountries countries = .ok known) (t : Text) :
    OnValues.readPlace t countries = .ok (Field.Place.ofText known t) := by
  by_cases h : ∃ piece, Field.Place.pieces t = [piece]
  · obtain ⟨piece, hpieces⟩ := h
    rw [Field.Place.ofText, OnValues.readPlace, hpieces, hknown]
    rfl
  · exact readPlace_of_not_single (not_exists.mp h) countries known

theorem run_parseField_place (engine : Engine) (t : Option Text) {countries : Value}
    {place : Field.Place} (h : OnValues.readPlace (t.getD []) countries = .ok place) :
    run engine (.parseField .place (.ofText? t) countries) = pure (.fields place.fields) := by
  simp only [run, OnValues.parseField, blankOr_ofText?]
  change (do
    let fields ← ofExcept (do
      let place ← OnValues.readPlace (t.getD []) countries
      return place.fields)
    return Answer.fields fields) = _
  rw [h]
  rfl

theorem knownCountries_ofTexts? (names : Option (List Text)) :
    OnValues.knownCountries (.ofTexts? names) = .ok (names.getD Field.countries) := by
  cases names with
  | none => rfl
  | some names =>
    change (names.map Value.text).mapM (Value.textFor .toLower) = .ok names
    induction names with
    | nil => rfl
    | cons name names ih =>
      rw [List.map_cons, List.mapM_cons, ih]
      rfl

end FilingName.Operation
