import FilingName.Proofs.Operation
import FilingName.Proofs.Template.Resolution

/-! Processing and previewing a template are two walks over the same segments. They agree in what
they report, in their faults and in the text, and the entries of a preview account for the text. -/
namespace FilingName.Template

namespace Resolution

/-- Whether the name of the token stands for a field. -/
def recognized : Resolution → Bool
  | unknown _ => false
  | missing .. | found .. => true

/-- Whether something else stands in for the field. -/
def usesStandIn : Resolution → Bool
  | missing .. => true
  | unknown _ | found .. => false

end Resolution

/-- What a reader of a preview tells entries apart by. -/
inductive EntryState where
  | unrecognized | missing | found

/-- An entry that is not recognized shows its token, and one that is missing what stands in. -/
def EntryState.Of (engine : Engine) (entry : Resolution) : EntryState → Prop
  | unrecognized =>
    entry.recognized = false ∧ entry.usesStandIn = false ∧ entry.final = .text entry.token.text
  | missing =>
    entry.recognized = true ∧ entry.usesStandIn = true ∧ entry.final = engine.missing
  | found => entry.recognized = true ∧ entry.usesStandIn = false

/-- Replaces the placeholders of a template one after the other; literals are kept. -/
def fillIn : List Segment → List Text → Text
  | [], _ => []
  | .literal text :: rest, finals => text ++ fillIn rest finals
  | .placeholder token :: rest, [] => token.text ++ fillIn rest []
  | .placeholder _ :: rest, final :: finals => final ++ fillIn rest finals

/-- The entries of a preview account for its text: they are those of the tokens, in order, each is
in one state, and put in the places of their tokens they make up the result. -/
structure Accounts (engine : Engine) (record : Value) (t : Text) (preview : Engine.Preview) :
    Prop where
  tokens_eq : preview.resolutions.map Resolution.token = tokens (parse t)
  resolved : ∀ entry ∈ preview.resolutions, Resolves engine record entry.token entry
  state : ∀ entry ∈ preview.resolutions, ∃! state, EntryState.Of engine entry state
  rebuilt : ∃ finals : List Text, preview.resolutions.map Resolution.final = finals.map Value.text ∧
    fillIn (parse t) finals = preview.result

variable {engine : Engine} {record : Value}

private theorem part_eq_step (segment : Segment) :
    engine.part record segment = Prod.fst <$> engine.step record segment := by
  cases segment with
  | literal text => simp [Engine.part, Engine.step]
  | placeholder token => simp [Engine.part, Engine.step]

/-- Processing is previewing without the entries, in its log and its faults as in its text. -/
theorem process_eq_preview (t : Text) :
    engine.process t record = Engine.Preview.result <$> engine.preview t record := by
  have hparts : (parse t).mapM (engine.part record) =
      List.map Prod.fst <$> (parse t).mapM (engine.step record) := by
    rw [← Logged.mapM_map_comm]
    exact congrArg (fun f => List.mapM f (parse t)) (funext part_eq_step)
  simp only [Engine.process, Engine.preview, hparts, bind_map_left, map_bind, bind_pure_comp,
    Functor.map_map, id_map']

private theorem joinFrom_eq_ok {values : List Value} {position : Nat} {t : Text}
    (h : Engine.joinFrom position values = .ok t) :
    ∃ texts : List Text, values = texts.map Value.text ∧ texts.flatten = t := by
  induction values generalizing position t with
  | nil =>
    cases h
    exact ⟨[], rfl, rfl⟩
  | cons value values ih =>
    cases value with
    | text first =>
      cases hrest : Engine.joinFrom (position + 1) values with
      | error fault => simp [Engine.joinFrom, hrest, bind, Except.bind] at h
      | ok rest =>
        obtain ⟨texts, rfl, rfl⟩ := ih hrest
        simp only [Engine.joinFrom, hrest, bind, Except.bind, pure, Except.pure,
          Except.ok.injEq] at h
        exact ⟨first :: texts, rfl, by simpa using h⟩
    | _ => cases h

private theorem step_eq_ok {segment : Segment} {s : Value × Option Resolution}
    (h : (engine.step record segment).outcome = .ok s) :
    (∃ text, segment = .literal text ∧ s = (.text text, none)) ∨
      ∃ token entry, segment = .placeholder token ∧
        (engine.resolve record token).outcome = .ok entry ∧ s = (entry.final, some entry) := by
  cases segment with
  | literal text =>
    cases h
    exact .inl ⟨text, rfl, rfl⟩
  | placeholder token =>
    obtain ⟨entry, hentry, h⟩ := Logged.bind_eq_ok.mp h
    cases h
    exact .inr ⟨token, entry, rfl, hentry, rfl⟩

private theorem Resolves.token_eq {token : Token} {entry : Resolution}
    (h : Resolves engine record token entry) : entry.token = token := by
  cases h <;> rfl

private theorem Resolves.state {token : Token} {entry : Resolution}
    (h : Resolves engine record token entry) : ∃! state, EntryState.Of engine entry state := by
  cases h with
  | unknown =>
    refine ⟨.unrecognized, ⟨rfl, rfl, rfl⟩, ?_⟩
    rintro (_ | _ | _) <;> simp [EntryState.Of, Resolution.recognized]
  | missing =>
    refine ⟨.missing, ⟨rfl, rfl, rfl⟩, ?_⟩
    rintro (_ | _ | _) <;> simp [EntryState.Of, Resolution.recognized, Resolution.usesStandIn]
  | found =>
    refine ⟨.found, ⟨rfl, rfl⟩, ?_⟩
    rintro (_ | _ | _) <;> simp [EntryState.Of, Resolution.recognized, Resolution.usesStandIn]

/-- The steps of a preview, one for each segment. -/
private abbrev Steps (engine : Engine) (record : Value) :=
  List.Forall₂ fun segment s => (engine.step record segment).outcome = .ok s

private theorem entries_of_steps {segments : List Segment}
    {steps : List (Value × Option Resolution)} (h : Steps engine record segments steps) :
    (steps.filterMap Prod.snd).map Resolution.token = tokens segments ∧
      ∀ entry ∈ steps.filterMap Prod.snd, Resolves engine record entry.token entry := by
  induction h with
  | nil => exact ⟨rfl, by simp⟩
  | cons hstep _ ih =>
    rcases step_eq_ok hstep with ⟨text, rfl, rfl⟩ | ⟨token, entry, rfl, hentry, rfl⟩
    · exact ih
    · have hresolves := Engine.resolves_of_resolve hentry
      have htoken := hresolves.token_eq
      subst htoken
      refine ⟨congrArg (entry.token :: ·) ih.1, fun other hin => ?_⟩
      rcases List.mem_cons.mp hin with rfl | hin
      · exact hresolves
      · exact ih.2 other hin

private theorem fillIn_of_steps {segments : List Segment}
    {steps : List (Value × Option Resolution)} (h : Steps engine record segments steps)
    {texts : List Text} (htexts : steps.map Prod.fst = texts.map Value.text) :
    ∃ finals : List Text,
      (steps.filterMap Prod.snd).map Resolution.final = finals.map Value.text ∧
        fillIn segments finals = texts.flatten := by
  induction h generalizing texts with
  | nil =>
    obtain rfl : texts = [] := by simpa using htexts.symm
    exact ⟨[], rfl, rfl⟩
  | cons hstep _ ih =>
    rcases texts with _ | ⟨first, texts⟩
    · simp at htexts
    · rw [List.map_cons, List.map_cons, List.cons.injEq] at htexts
      obtain ⟨finals, hfinals, hfill⟩ := ih htexts.2
      rcases step_eq_ok hstep with ⟨text, rfl, rfl⟩ | ⟨token, entry, rfl, -, rfl⟩
      · obtain rfl : text = first := Value.text.inj htexts.1
        exact ⟨finals, hfinals, by rw [fillIn, hfill, List.flatten_cons]⟩
      · refine ⟨first :: finals, ?_, by rw [fillIn, hfill, List.flatten_cons]⟩
        simpa [hfinals] using htexts.1

theorem accounts_of_preview {t : Text} {preview : Engine.Preview}
    (h : (engine.preview t record).outcome = .ok preview) : Accounts engine record t preview := by
  obtain ⟨steps, hsteps, h⟩ := Logged.bind_eq_ok.mp h
  obtain ⟨result, hresult, h⟩ := Logged.bind_eq_ok.mp h
  cases h
  have hsteps := Logged.mapM_eq_ok.mp hsteps
  obtain ⟨texts, htexts, rfl⟩ := joinFrom_eq_ok hresult
  obtain ⟨htokens, hresolved⟩ := entries_of_steps hsteps
  exact ⟨htokens, hresolved, fun entry hin => (hresolved entry hin).state,
    fillIn_of_steps hsteps htexts⟩

/-- Processing and previewing report the same in the same order. Both have the same fault, or the
preview shows the text that processing writes and accounts for it. -/
theorem preview_agrees_with_process (engine : Engine) (template record : Value) :
    (Operation.run engine (.preview template record)).log =
        (Operation.run engine (.process template record)).log ∧
      ((∃ fault, (Operation.run engine (.preview template record)).outcome = .error fault ∧
          (Operation.run engine (.process template record)).outcome = .error fault) ∨
        ∃ preview, (Operation.run engine (.preview template record)).outcome =
            .ok (.preview template preview) ∧
          (Operation.run engine (.process template record)).outcome =
            .ok (.value (.text preview.result)) ∧
          Accounts engine record (OnValues.templateText template) preview) := by
  rw [Operation.run_process, Operation.run_preview, process_eq_preview]
  cases h : (engine.preview (OnValues.templateText template) record).outcome with
  | error fault =>
    refine ⟨by simp, .inl ⟨.value fault, ?_, ?_⟩⟩
    · simp [h, Except.mapError]
    · simp [h, Except.mapError]
  | ok preview =>
    refine ⟨by simp, .inr ⟨preview, ?_, ?_, accounts_of_preview h⟩⟩
    · simp [h, Except.mapError]
    · simp [h, Except.mapError]

end FilingName.Template
