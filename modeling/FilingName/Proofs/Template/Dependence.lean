import FilingName.Proofs.Template.Preview
import FilingName.Proofs.Template.Validity

/-! What processing a template depends on: the fields that its own names stand for, and what the
record has in these fields. -/
namespace FilingName.Template

/-- Two key maps give the same field for each of the names, and two records the same value for each
of these fields. -/
def AgreeOn (names : List Text) (keyMap otherMap record otherRecord : Value) : Prop :=
  ∀ name ∈ names, otherMap.lookUp (.text name) = keyMap.lookUp (.text name) ∧
    ∀ field, keyMap.lookUp (.text name) = .ok field → field ≠ .null →
      otherRecord.lookUp field = record.lookUp field

variable {names : List Text} {engine other : Engine} {record otherRecord : Value} {t : Text}

/-- A token is resolved through its own name and through nothing else. -/
theorem resolve_of_agreeOn (hmissing : other.missing = engine.missing)
    (h : AgreeOn names engine.keyMap other.keyMap record otherRecord) {token : Token}
    (htoken : token.name ∈ names) :
    other.resolve otherRecord token = engine.resolve record token := by
  obtain ⟨hsame, hvalue⟩ := h token.name htoken
  cases hfield : engine.keyMap.lookUp (.text token.name) with
  | error fault =>
    simp only [Engine.resolve, hsame, hfield, Logged.lift_bind_error]
  | ok field =>
    rw [hfield] at hsame
    by_cases hnull : field = .null
    · subst hnull
      rw [Engine.resolve_unknown hfield, Engine.resolve_unknown hsame]
    · rw [Engine.resolve_field hfield hnull, Engine.resolve_field hsame hnull,
        hvalue field hfield hnull, hmissing]

theorem preview_of_agreeOn (hmissing : other.missing = engine.missing)
    (h : AgreeOn names engine.keyMap other.keyMap record otherRecord)
    (hnames : ∀ token ∈ tokens (parse t), token.name ∈ names) :
    other.preview t otherRecord = engine.preview t record := by
  have hsteps : (parse t).mapM (other.step otherRecord) = (parse t).mapM (engine.step record) := by
    refine Logged.mapM_congr fun segment hin => ?_
    cases segment with
    | literal text => rfl
    | placeholder token =>
      rw [Engine.step, Engine.step,
        resolve_of_agreeOn hmissing h (hnames token (mem_tokens.mpr hin))]
  rw [Engine.preview, Engine.preview, hsteps]

/-- The names that a template requires are those of its tokens, and all that it takes from a key map
and a record goes through them: where these agree on the names, processing and previewing come to
the same results or faults, with the same reports. -/
theorem required_names_decide_processing (missing keyMap otherMap record otherRecord : Value)
    (t : Text) : ∃ names,
      (∀ engine, Operation.run engine (.required (.text t)) = pure (.names names)) ∧
      (∀ name, name ∈ names ↔ ∃ token ∈ tokens (parse t), token.name = name) ∧
      (AgreeOn names keyMap otherMap record otherRecord →
        Operation.run ⟨otherMap, missing⟩ (.process (.text t) otherRecord) =
            Operation.run ⟨keyMap, missing⟩ (.process (.text t) record) ∧
          Operation.run ⟨otherMap, missing⟩ (.preview (.text t) otherRecord) =
            Operation.run ⟨keyMap, missing⟩ (.preview (.text t) record)) := by
  have hmem (name : Text) : name ∈ OnValues.sorted (required t) ↔
      ∃ token ∈ tokens (parse t), token.name = name := by
    rw [OnValues.sorted, List.mem_mergeSort, mem_required]
  refine ⟨OnValues.sorted (required t), fun engine => rfl, hmem, fun h => ?_⟩
  have hpreview : Engine.preview ⟨otherMap, missing⟩ t otherRecord =
      Engine.preview ⟨keyMap, missing⟩ t record :=
    preview_of_agreeOn rfl h fun token hin => (hmem _).mpr ⟨token, hin, rfl⟩
  rw [Operation.run_process, Operation.run_process, Operation.run_preview, Operation.run_preview,
    OnValues.templateText, process_eq_preview, process_eq_preview, hpreview]
  exact ⟨rfl, rfl⟩

/-- Two key maps that differ in a name, and two records that differ in a field, of which a template
knows nothing. -/
theorem given_and_age_decide_processing :
    let keyMap := Value.mapping [("GIVEN".toList, .text "given".toList),
      ("SURNAME".toList, .text "surname".toList)]
    let otherMap := Value.mapping [("GIVEN".toList, .text "given".toList)]
    let record := Value.mapping [("given".toList, .text "ann".toList),
      ("surname".toList, .text "roe".toList)]
    let otherRecord := Value.mapping [("surname".toList, .text "doe".toList),
      ("given".toList, .text "ann".toList)]
    AgreeOn ["AGE".toList, "GIVEN".toList] keyMap otherMap record otherRecord ∧
      Operation.run ⟨otherMap, .null⟩ (.process (.text "{AGE}{GIVEN:upper}".toList) otherRecord) =
        Operation.run ⟨keyMap, .null⟩ (.process (.text "{AGE}{GIVEN:upper}".toList) record) ∧
      Operation.run ⟨otherMap, .null⟩ (.preview (.text "{AGE}{GIVEN:upper}".toList) otherRecord) =
        Operation.run ⟨keyMap, .null⟩ (.preview (.text "{AGE}{GIVEN:upper}".toList) record) := by
  intro keyMap otherMap record otherRecord
  have hagree : AgreeOn ["AGE".toList, "GIVEN".toList] keyMap otherMap record otherRecord := by
    intro name hname
    rcases List.mem_pair.mp hname with rfl | rfl
    · exact ⟨rfl, fun field hfield hnull => absurd (Except.ok.inj hfield).symm hnull⟩
    · refine ⟨rfl, fun field hfield _ => ?_⟩
      rw [← Except.ok.inj hfield]
      rfl
  obtain ⟨names, -, hmem, hsame⟩ := required_names_decide_processing .null keyMap otherMap record
    otherRecord "{AGE}{GIVEN:upper}".toList
  have htokens : (tokens (parse "{AGE}{GIVEN:upper}".toList)).map Token.name =
      ["AGE".toList, "GIVEN".toList] := by
    decide +kernel
  refine ⟨hagree, hsame fun name hname => hagree name ?_⟩
  obtain ⟨token, hin, rfl⟩ := (hmem name).mp hname
  exact htokens ▸ List.mem_map_of_mem hin

end FilingName.Template
