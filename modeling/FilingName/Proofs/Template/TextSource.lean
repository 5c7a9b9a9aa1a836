import FilingName.Proofs.Operation
import FilingName.Proofs.Template.Format
import FilingName.Proofs.Template.Process
import FilingName.Proofs.Template.Validity

/-! Key maps and records of nothing but text. A token then comes to a text that is looked up under
two names, and only a short year asked of too long a numeral keeps a template from being written. -/
namespace FilingName.Template

/-- The fields that names stand for, the texts that a record has in its fields, and the text that
stands in for a missing field. -/
structure TextSource where
  names : List (Text × Text)
  fields : List (Text × Option Text)
  standIn : Text

namespace TextSource
variable (source : TextSource)

def engine : Engine where
  keyMap := .mapping (source.names.map fun entry => (entry.1, .text entry.2))
  missing := .text source.standIn

def record : Value := .mapping (source.fields.map fun entry => (entry.1, .ofText? entry.2))

/-- The text that goes by a name, empty where its field is missing; none where no field does. -/
def value? (name : Text) : Option Text :=
  (source.names.lookup name).map fun field => ((source.fields.lookup field).join).getD []

/-- The text that a token writes. What stands in for a missing field is not modified. -/
def written (token : Token) : Text :=
  match source.value? token.name with
  | none => token.text
  | some [] => source.standIn
  | some value =>
    match format token.name value with
    | .ok formatted => modified token.modifier formatted
    | .error _ => []

/-- What a token reports: a name that no field goes by, or a modifier that would be applied to a
text and does not exist. -/
def reported (token : Token) : List Diagnostic :=
  match source.value? token.name with
  | none => [.unknownPlaceholder token.name]
  | some [] => []
  | some _ =>
    if token.modifier = [] ∨ (Modifier.ofName? token.modifier).isSome then []
    else [.unknownModifier token.modifier]

variable {source} {token : Token} {t : Text}

theorem keyMap_lookUp (name : Text) : source.engine.keyMap.lookUp (.text name) =
    .ok (.ofText? (source.names.lookup name)) := by
  rw [engine, Value.lookUp_text, Value.lookup_map]
  cases source.names.lookup name <;> rfl

private theorem record_lookUp (field : Text) : source.record.lookUp (.text field) =
    .ok (.ofText? (source.fields.lookup field).join) := by
  rw [record, Value.lookUp_text, Value.lookup_map]
  rcases source.fields.lookup field with _ | _ | _ <;> rfl

/-- A text that goes by a name is found through a field, where it may be missing. -/
private theorem exists_field {value : Text} (h : source.value? token.name = some value) :
    ∃ (field : Text) (recorded : Option Text),
      source.engine.keyMap.lookUp (.text token.name) = .ok (.text field) ∧
      source.record.lookUp (.text field) = .ok (.ofText? recorded) ∧ recorded.getD [] = value := by
  obtain ⟨field, hfield, hvalue⟩ := Option.map_eq_some_iff.mp h
  exact ⟨field, _, by rw [keyMap_lookUp, hfield]; rfl, record_lookUp field, hvalue⟩

/-- A token is resolved as it should be written, with the reports that it should have, unless its
numeral is too long. -/
theorem resolve_eq
    (h : ∀ value, source.value? token.name = some value → ¬ TooLong token.name value) :
    ∃ resolution, source.engine.resolve source.record token =
        ⟨source.reported token, .ok resolution⟩ ∧
      resolution.final = .text (source.written token) := by
  cases hvalue : source.value? token.name with
  | none =>
    have hname : source.names.lookup token.name = none := Option.map_eq_none_iff.mp hvalue
    refine ⟨.unknown token, ?_, ?_⟩
    · rw [Engine.resolve_unknown (by rw [keyMap_lookUp, hname]; rfl), reported, hvalue]
    · rw [Resolution.final, written, hvalue]
  | some value =>
    obtain ⟨field, recorded, hfield, hrecord, hrecorded⟩ := exists_field hvalue
    cases value with
    | nil =>
      refine ⟨.missing token (.text field) (.text source.standIn), ?_, ?_⟩
      · rw [Engine.resolve_missing hfield (by simp) hrecord (by simp [hrecorded]), reported, hvalue]
        rfl
      · rw [Resolution.final, written, hvalue]
    | cons c value =>
      obtain rfl : recorded = some (c :: value) := by cases recorded <;> simp_all
      obtain ⟨formatted, hformat⟩ := format_of_not_tooLong (h _ hvalue)
      have hne := format_ne_nil hformat (List.cons_ne_nil c value)
      refine ⟨.found token (.text field) (c :: value) (token.chain.map lastModifier)
        (modified token.modifier formatted), ?_, ?_⟩
      · rw [Engine.resolve_found hfield (by simp) hrecord rfl rfl hformat, modify_eq, reported,
          hvalue]
        simp [hne]
      · simp only [Resolution.final, written, hvalue, hformat]

/-- A token contributes the text that it should write, and the reports that it should have. -/
theorem part_eq
    (h : ∀ value, source.value? token.name = some value → ¬ TooLong token.name value) :
    source.engine.part source.record (.placeholder token) =
      ⟨source.reported token, .ok (.text (source.written token))⟩ := by
  obtain ⟨resolution, hresolve, hfinal⟩ := resolve_eq h
  rw [Engine.part_placeholder, hresolve, Logged.ext_iff, Logged.map_log, Logged.map_outcome]
  exact ⟨rfl, congrArg Except.ok hfinal⟩

private theorem resolve_tooLong {value : Text} (hvalue : source.value? token.name = some value)
    (h : TooLong token.name value) :
    source.engine.resolve source.record token = ⟨[], .error (.numeralTooLong value.length)⟩ := by
  obtain ⟨field, recorded, hfield, hrecord, hrecorded⟩ := exists_field hvalue
  have hpresent : value ≠ [] := by
    rintro rfl
    exact absurd h.2.1 (by decide)
  obtain rfl : recorded = some value := by cases recorded <;> simp_all
  refine Engine.resolve_unformatted hfield (by simp) hrecord ?_ rfl
    (format_eq_error_iff.mpr ⟨h, rfl⟩)
  simp [hpresent]

/-- A token for a field reports nothing if the modifier that it ends in exists. -/
theorem reported_of_supported (hvalue : source.value? token.name ≠ none)
    (hchain : ∀ chain ∈ token.chain, Supported chain) : source.reported token = [] := by
  have hmodifier : token.modifier = [] ∨ (Modifier.ofName? token.modifier).isSome := by
    rw [Token.modifier]
    cases h : token.chain with
    | none => exact .inl rfl
    | some chain => exact .inr (supported_iff.mp (hchain chain h))
  unfold reported
  split
  · exact absurd ‹_› hvalue
  · rfl
  · rw [if_pos hmodifier]

/-- A token without a modifier writes its field as its name does, or what stands in for it. -/
theorem written_of_unmodified {value formatted : Text}
    (hvalue : source.value? token.name = some value) (hmodifier : token.modifier = [])
    (hformat : value ≠ [] → format token.name value = .ok formatted) :
    source.written token = if value = [] then source.standIn else formatted := by
  unfold written
  rw [hvalue]
  cases value with
  | nil => rfl
  | cons c value => simp [hformat, hmodifier]

/-- No token of a template asks for the short year of too long a numeral. -/
def NumeralsFit (source : TextSource) (t : Text) : Prop :=
  ∀ token ∈ tokens (parse t), ∀ value, source.value? token.name = some value →
    ¬ TooLong token.name value

theorem process_eq (h : source.NumeralsFit t) : source.engine.process t source.record =
    ⟨(tokens (parse t)).flatMap source.reported,
      .ok ((parse t).flatMap (Segment.filled source.written))⟩ := by
  have hresolve (token : Token) (hin : token ∈ tokens (parse t)) := resolve_eq (h token hin)
  refine Logged.ext ?_ ?_
  · rw [Engine.process_log_of_resolved]
    · refine List.flatMap_congr fun token hin => ?_
      obtain ⟨resolution, heq, -⟩ := hresolve token hin
      rw [heq]
    · intro token hin
      obtain ⟨resolution, heq, -⟩ := hresolve token hin
      exact ⟨resolution, by rw [heq]⟩
  · refine Engine.process_outcome_of_resolved fun token hin => ?_
    obtain ⟨resolution, heq, hfinal⟩ := hresolve token hin
    exact ⟨resolution, by rw [heq], hfinal⟩

/-- A numeral that is too long is the fault of the whole template, and there is only one of them,
for all tokens that ask for a short year look at the same field. -/
private theorem process_tooLong {value : Text} (hin : token ∈ tokens (parse t))
    (hvalue : source.value? token.name = some value) (h : TooLong token.name value) :
    (source.engine.process t source.record).outcome = .error (.numeralTooLong value.length) := by
  rcases Engine.resolved_or_fault source.engine source.record t with
    hall | ⟨_, other, _, fault, -, -, hfault, hprocess⟩
  · obtain ⟨resolution, hresolution⟩ := hall token hin
    rw [resolve_tooLong hvalue h] at hresolution
    cases hresolution
  · rw [hprocess]
    by_cases hother : ∀ value, source.value? other.name = some value → ¬ TooLong other.name value
    · obtain ⟨resolution, hresolve, -⟩ := resolve_eq hother
      rw [hresolve] at hfault
      cases hfault
    · push Not at hother
      obtain ⟨value', hvalue', hlong⟩ := hother
      have hsame : some value' = some value := by rw [← hvalue', ← hvalue, hlong.1, h.1]
      rw [resolve_tooLong hvalue' hlong, Option.some.inj hsame] at hfault
      cases hfault
      rfl

private theorem written_ne_nil (hstandIn : source.standIn ≠ [])
    (h : ∀ value, source.value? token.name = some value → ¬ TooLong token.name value) :
    source.written token ≠ [] := by
  unfold written
  split
  · exact token.text_ne_nil
  · exact hstandIn
  · next value hne hvalue =>
    obtain ⟨formatted, hformat⟩ := format_of_not_tooLong (h value hvalue)
    rw [hformat]
    exact modified_ne_nil (format_ne_nil hformat fun hnil => hne hnil) _

/-- A template that is not empty writes something. -/
theorem filled_ne_nil (hstandIn : source.standIn ≠ []) (h : source.NumeralsFit t) (ht : t ≠ []) :
    (parse t).flatMap (Segment.filled source.written) ≠ [] := by
  have hsplits := splits_parse t
  obtain ⟨segment, hin⟩ : ∃ segment, segment ∈ parse t := by
    refine List.exists_mem_of_ne_nil _ fun hnil => ht ?_
    rw [← hsplits.write_eq, hnil, write_nil]
  rw [ne_eq, List.flatMap_eq_nil_iff, not_forall]
  refine ⟨segment, fun hnil => ?_⟩
  cases segment with
  | literal text => exact hsplits.literal_ne_nil text hin (hnil hin)
  | placeholder token => exact written_ne_nil hstandIn (h token (mem_tokens.mpr hin)) (hnil hin)

private theorem process_writes_iff :
    (∃ out, (source.engine.process t source.record).outcome = .ok out) ↔
    source.NumeralsFit t := by
  constructor
  · rintro ⟨out, hout⟩ token hin value hvalue hlong
    rw [process_tooLong hin hvalue hlong] at hout
    cases hout
  · exact fun h => ⟨_, by rw [process_eq h]⟩

/-- Processing writes a text exactly where no short year is asked of too long a numeral, and such a
numeral is the only fault that there can be. -/
theorem process_fails_only_on_long_numerals (source : TextSource) (t : Text) :
    ((∃ out, (Operation.run source.engine (.process (.text t) source.record)).outcome =
        .ok (.value (.text out))) ↔ source.NumeralsFit t) ∧
      ∀ token ∈ tokens (parse t), ∀ value, source.value? token.name = some value →
        TooLong token.name value →
          (Operation.run source.engine (.process (.text t) source.record)).outcome =
            .error (.value (.numeralTooLong value.length)) := by
  rw [← process_writes_iff, Operation.run_process]
  constructor
  · cases h : (source.engine.process t source.record).outcome with
    | ok out => simp [OnValues.templateText, h, Except.mapError]
    | error fault => simp [OnValues.templateText, h, Except.mapError]
  · intro token hin value hvalue hlong
    simp [OnValues.templateText, process_tooLong hin hvalue hlong, Except.mapError]

/-- A record whose year has a number of digits. -/
def yearOf (digits : Nat) : TextSource where
  names := dateFields.map fun entry => (entry.1.toList, entry.2.toList)
  fields := [("year".toList, some (List.replicate digits '1'))]
  standIn := ['x']

private theorem process_yearOf {digits : Nat} (h : digitLimit < digits) :
    ((yearOf digits).engine.process "{YY}".toList (yearOf digits).record).outcome =
      .error (.numeralTooLong digits) := by
  have hin : (⟨"YY".toList, none⟩ : Token) ∈ tokens (parse "{YY}".toList) := by decide +kernel
  have hnumber : isNumber (List.replicate digits '1') = true := by
    obtain ⟨more, rfl⟩ := Nat.exists_eq_succ_of_ne_zero (Nat.ne_of_gt (Nat.zero_lt_of_lt h))
    simp [isNumber, Text.isDigit]
  have hvalue : (yearOf digits).value? "YY".toList = some (List.replicate digits '1') := rfl
  rw [process_tooLong hin hvalue ⟨rfl, hnumber, by rwa [List.length_replicate]⟩,
    List.length_replicate]

/-- Of a year with 4301 digits the last two are never written. -/
theorem long_year_not_written : ¬ ∃ out,
    (Operation.run (yearOf 4301).engine
      (.process (.text "{YY}".toList) (yearOf 4301).record)).outcome =
        .ok (.value (.text out)) := by
  rintro ⟨out, hout⟩
  rw [Operation.run_process, Logged.map_outcome, Operation.ofReported_outcome,
    OnValues.templateText, process_yearOf (by decide)] at hout
  cases hout

end TextSource
end FilingName.Template
