import FilingName.Proofs.Template.Format
import FilingName.Proofs.Template.Process
import FilingName.Proofs.Template.Validity
import FilingName.Proofs.Text.LetterCase
import FilingName.Proofs.Value

/-! Validation looks at a template alone, and processing at a record with it. Where validation has
nothing to object to, processing has nothing to report, whatever the record; what validation objects
to in a name or a modifier is reported once the record has every field. -/
namespace FilingName.Template
open Text (IsLastPiece)

/-- No name of a key map leads to null. -/
def NullFree (entries : List (Text × Value)) : Prop :=
  ∀ name field, (name, field) ∈ entries → field ≠ .null

/-- A record of nulls and of texts that are not too long to be read as numbers. -/
def ShortTexts (fields : List (Text × Value)) : Prop :=
  ∀ name value, (name, value) ∈ fields →
    value = .null ∨ ∃ t : Text, value = .text t ∧ t.length ≤ digitLimit

/-- A record has every field of a key map, none of them null or empty. -/
def Complete (entries fields : List (Text × Value)) : Prop :=
  ∀ name field, (name, field) ∈ entries → ∃ value,
    (Value.mapping fields).lookUp field = .ok value ∧ value ≠ .null ∧ value ≠ .text []

/-- Braces in a text come from a record or from what stands in for missing fields. -/
def AddsNoBrace (handler : Text) (fields : List (Text × Value)) (out : Text) : Prop :=
  BraceFree handler → (∀ name t, (name, .text t) ∈ fields → BraceFree t) → BraceFree out

/-- The name of a token leads to a value that cannot be a key of a record. -/
def LeadsNowhere (entries : List (Text × Value)) (token : Token) (fault : ValueFault) : Prop :=
  ∃ field, (token.name, field) ∈ entries ∧ (field.kind = .list ∨ field.kind = .mapping) ∧
    fault = .notKey field.kind

/-- A chain ends in the name of a modifier, and there is no such modifier. -/
def Token.Misnamed (token : Token) : Prop :=
  ∃ chain ∈ token.chain, ∃ last, IsLastPiece ':' chain last ∧ last ≠ [] ∧
    Text.lower last ∉ modifierNames

/-- Processing reports nothing. It writes a text without new braces, and has a fault only where a
token leads nowhere. -/
structure Quiet (entries fields : List (Text × Value)) (handler t : Text)
    (work : Operation.Work Answer) : Prop where
  log_eq_nil : work.log = []
  outcome : (∃ out, work.outcome = .ok (.value (.text out)) ∧ AddsNoBrace handler fields out) ∨
    ∃ token ∈ tokens (parse t), ∃ fault, LeadsNowhere entries token fault ∧
      work.outcome = .error (.value fault)

/-- Validation rejects the template for its names, or for a modifier that a chain ends in. -/
def RejectedByName (engine : Engine) (template : Value) : Prop :=
  (∃ names, Operation.run engine (.validate template) =
      pure (.validity (some (.unknownPlaceholders names)))) ∨
    ∃ modifiers, Operation.run engine (.validate template) =
        pure (.validity (some (.unknownModifiers modifiers))) ∧
      ∃ token ∈ tokens (parse (OnValues.templateText template)), token.Misnamed

private theorem mem_of_mem_apply {modifier : Modifier} {value : Text} {c : Char}
    (h : c ∈ modifier.apply value) (hmark : Text.isMark c) : c ∈ value := by
  cases modifier with
  | upper => exact Text.neverMade_isMark.mem_of_mem_upper h hmark
  | lower => exact Text.neverMade_isMark.mem_of_mem_lower h hmark
  | title => exact Text.neverMade_isMark.mem_of_mem_titleCase h hmark
  | initial =>
    cases value with
    | nil => cases h
    | cons first value =>
      rw [Text.neverMade_isMark.upper ((List.take_prefix 1 _).subset h) hmark]
      exact List.mem_cons_self

private theorem mem_of_mem_modified {written value : Text} {c : Char}
    (h : c ∈ modified written value) (hmark : Text.isMark c) : c ∈ value := by
  unfold modified at h
  split at h
  · exact mem_of_mem_apply h hmark
  · exact h

private theorem isMark_of_isBrace {c : Char} (h : isBrace c) :
    Text.isMark c ∧ Text.isDigit c = false := by
  rw [isBrace, Bool.or_eq_true, beq_iff_eq, beq_iff_eq] at h
  rcases h with rfl | rfl <;> decide

/-- No change of case and no padding ever makes a brace. -/
private theorem braceFree_modified {name value formatted : Text}
    (h : format name value = .ok formatted) (hvalue : BraceFree value) (written : Text) :
    BraceFree (modified written formatted) := by
  rw [braceFree_iff] at hvalue ⊢
  intro c hc
  by_contra hbrace
  obtain ⟨hmark, hdigit⟩ := isMark_of_isBrace (Bool.of_not_eq_false hbrace)
  rcases mem_or_isDigit_of_format h (mem_of_mem_modified hc hmark) with hin | hin
  · exact hbrace (hvalue c hin)
  · rw [hdigit] at hin
    cases hin

/-- Braces in what is written stand in a literal or were put in for a token. -/
private theorem braceFree_filled {segments : List Segment} {final : Token → Text}
    (hliterals : ∀ literal, .literal literal ∈ segments → BraceFree literal)
    (hfinals : ∀ token ∈ tokens segments, BraceFree (final token)) :
    BraceFree (segments.flatMap (Segment.filled final)) := by
  rw [braceFree_iff]
  intro c hc
  obtain ⟨segment, hin, hc⟩ := List.mem_flatMap.mp hc
  cases segment with
  | literal text => exact braceFree_iff.mp (hliterals text hin) c hc
  | placeholder token => exact braceFree_iff.mp (hfinals token (mem_tokens.mpr hin)) c hc

section
variable {entries fields : List (Text × Value)} {handler : Text} {token : Token}

/-- A field that is present is a text, and the placeholder writes it. -/
theorem resolve_present (hrecord : ShortTexts fields) {field value : Value}
    (hfield : (Value.mapping entries).lookUp (.text token.name) = .ok field) (hne : field ≠ .null)
    (hvalue : (Value.mapping fields).lookUp field = .ok value)
    (hpresent : value.isMissing = false) :
    ∃ name recorded formatted, (name, .text recorded) ∈ fields ∧ formatted ≠ [] ∧
      format token.name recorded = .ok formatted ∧
      Engine.resolve ⟨.mapping entries, .text handler⟩ (.mapping fields) token =
        ⟨(modify token.modifier formatted).log,
          .ok (.found token field recorded (token.chain.map lastModifier)
            (modified token.modifier formatted))⟩ := by
  rcases Value.null_or_mem_of_lookUp hvalue with rfl | ⟨name, hin⟩
  · cases hpresent
  · rcases hrecord name value hin with rfl | ⟨recorded, rfl, hlength⟩
    · cases hpresent
    · have hrecorded : recorded ≠ [] := by
        rintro rfl
        cases hpresent
      obtain ⟨formatted, hformat⟩ := format_of_length_le hlength token.name
      exact ⟨name, recorded, formatted, hin, format_ne_nil hformat hrecorded, hformat,
        Engine.resolve_found hfield hne hvalue hpresent rfl hformat⟩

private theorem not_misnamed_of_supported (h : ∀ chain ∈ token.chain, Supported chain) :
    ¬ token.Misnamed := by
  rintro ⟨chain, hchain, last, hlast, -, hunknown⟩
  obtain ⟨last', hlast', hin⟩ := h chain hchain
  rw [← Token.modifier_eq hchain hlast, Token.modifier_eq hchain hlast'] at hunknown
  exact hunknown hin

theorem modify_log_of_not_misnamed (h : ¬ token.Misnamed) (value : Text) :
    (modify token.modifier value).log = [] := by
  rw [modify_eq]
  refine if_pos ?_
  by_contra hreported
  obtain ⟨hne, -, hunknown⟩ : token.modifier ≠ [] ∧ value ≠ [] ∧
      ¬ (Modifier.ofName? token.modifier).isSome := by simpa [not_or] using hreported
  rw [ofName?_isSome] at hunknown
  cases hchain : token.chain with
  | none => exact hne (by rw [Token.modifier, hchain]; rfl)
  | some chain =>
    exact h ⟨chain, hchain, token.modifier, token.isLastPiece_modifier hchain, hne, hunknown⟩

theorem modify_log_of_unknown {chain last value : Text} (hchain : chain ∈ token.chain)
    (hlast : IsLastPiece ':' chain last) (hne : last ≠ [])
    (hunknown : Text.lower last ∉ modifierNames) (hvalue : value ≠ []) :
    (modify token.modifier value).log = [.unknownModifier last] := by
  rw [modify_eq, Token.modifier_eq hchain hlast]
  exact if_neg (by simp [hne, hvalue, ofName?_isSome, hunknown])

/-- A token of a known name and modifier reports nothing. What stands in its place is text without
new braces, unless it leads nowhere. -/
private theorem resolve_supported (handler : Text) (hmap : NullFree entries)
    (hrecord : ShortTexts fields) (hname : token.name ∈ entries.map Prod.fst)
    (hchain : ∀ chain ∈ token.chain, Supported chain) :
    ∃ outcome, Engine.resolve ⟨.mapping entries, .text handler⟩ (.mapping fields) token =
        ⟨[], outcome⟩ ∧
      ((∃ resolution final, outcome = .ok resolution ∧ resolution.final = .text final ∧
          AddsNoBrace handler fields final) ∨
        ∃ fault, LeadsNowhere entries token fault ∧ outcome = .error fault) := by
  obtain ⟨field, hin, hfield⟩ := Value.lookUp_of_mem hname
  have hne := hmap _ field hin
  cases hvalue : (Value.mapping fields).lookUp field with
  | error fault =>
    exact ⟨_, Engine.resolve_error hfield hne hvalue,
      .inr ⟨fault, ⟨field, hin, Value.kind_of_lookUp_error hvalue⟩, rfl⟩⟩
  | ok value =>
    cases hmissing : value.isMissing with
    | true =>
      exact ⟨_, Engine.resolve_missing hfield hne hvalue hmissing,
        .inl ⟨_, handler, rfl, rfl, fun hhandler _ => hhandler⟩⟩
    | false =>
      obtain ⟨name, recorded, formatted, hrecorded, -, hformat, hresolve⟩ :=
        resolve_present hrecord hfield hne hvalue hmissing
      rw [modify_log_of_not_misnamed (not_misnamed_of_supported hchain)] at hresolve
      refine ⟨_, hresolve, .inl ⟨_, _, rfl, rfl, fun _ hfree => ?_⟩⟩
      exact braceFree_modified hformat (hfree name recorded hrecorded) _

/-- Where the record is complete every token is resolved, and what is wrong with a name or with a
modifier is reported. -/
private theorem resolve_reports (handler : Text) (token : Token) (hmap : NullFree entries)
    (hrecord : ShortTexts fields) (hcomplete : Complete entries fields) :
    ∃ log resolution, Engine.resolve ⟨.mapping entries, .text handler⟩ (.mapping fields) token =
        ⟨log, .ok resolution⟩ ∧
      (token.name ∉ entries.map Prod.fst ∨ token.Misnamed → log ≠ []) := by
  by_cases hname : token.name ∈ entries.map Prod.fst
  · obtain ⟨field, hin, hfield⟩ := Value.lookUp_of_mem hname
    obtain ⟨value, hvalue, hpresent⟩ := hcomplete _ field hin
    rw [← not_or, ← Value.isMissing_iff, Bool.not_eq_true] at hpresent
    obtain ⟨name, recorded, formatted, -, hformatted, -, hresolve⟩ :=
      resolve_present hrecord hfield (hmap _ field hin) hvalue hpresent
    refine ⟨_, _, hresolve, ?_⟩
    rintro (hunknown | ⟨chain, hchain, last, hlast, hne, hunknown⟩)
    · exact absurd hname hunknown
    · simp [modify_log_of_unknown hchain hlast hne hunknown hformatted]
  · exact ⟨_, _, Engine.resolve_unknown (Value.lookUp_of_not_mem hname), fun _ => by simp⟩

private theorem process_accepted {t : Text} (hmap : NullFree entries) (hrecord : ShortTexts fields)
    (h : Permitted (entries.map Prod.fst) (parse t)) :
    ∃ outcome, Engine.process ⟨.mapping entries, .text handler⟩ t (.mapping fields) =
        ⟨[], outcome⟩ ∧
      ((∃ out, outcome = .ok out ∧ AddsNoBrace handler fields out) ∨
        ∃ token ∈ tokens (parse t), ∃ fault, LeadsNowhere entries token fault ∧
          outcome = .error fault) := by
  have htokens (token : Token) (hin : token ∈ tokens (parse t)) :=
    resolve_supported handler hmap hrecord (h.known token hin) (h.supported token hin)
  have hlog : (Engine.process ⟨.mapping entries, .text handler⟩ t (.mapping fields)).log = [] := by
    refine Engine.process_log_eq_nil fun token hin => ?_
    obtain ⟨outcome, hresolve, -⟩ := htokens token hin
    rw [hresolve]
  refine ⟨_, Logged.ext hlog rfl, ?_⟩
  have houtcomes : ∀ token ∈ tokens (parse t),
      (∃ resolution final, (Engine.resolve ⟨.mapping entries, .text handler⟩ (.mapping fields)
          token).outcome = .ok resolution ∧ resolution.final = .text final ∧
        AddsNoBrace handler fields final) ∨
      ∃ fault, LeadsNowhere entries token fault ∧ (Engine.resolve
        ⟨.mapping entries, .text handler⟩ (.mapping fields) token).outcome = .error fault := by
    intro token hin
    obtain ⟨outcome, hresolve, houtcome⟩ := htokens token hin
    rwa [hresolve]
  rcases Engine.written_or_fault houtcomes with ⟨final, hbrace, hprocess⟩ | hfault
  · refine .inl ⟨_, hprocess, fun hhandler hfields => ?_⟩
    exact braceFree_filled h.braceFree fun token hin => hbrace token hin hhandler hfields
  · exact .inr hfault

private theorem process_rejected {t : Text} (hmap : NullFree entries) (hrecord : ShortTexts fields)
    (hcomplete : Complete entries fields) (hin : token ∈ tokens (parse t))
    (hbad : token.name ∉ entries.map Prod.fst ∨ token.Misnamed) :
    (Engine.process ⟨.mapping entries, .text handler⟩ t (.mapping fields)).log ≠ [] := by
  rw [Engine.process_log_of_resolved]
  · intro hnil
    obtain ⟨log, resolution, hresolve, hlog⟩ :=
      resolve_reports handler token hmap hrecord hcomplete
    have htoken := List.flatMap_eq_nil_iff.mp hnil token hin
    rw [hresolve] at htoken
    exact hlog hbad htoken
  · intro token _
    obtain ⟨log, resolution, hresolve, -⟩ :=
      resolve_reports handler token hmap hrecord hcomplete
    exact ⟨resolution, by rw [hresolve]⟩

private theorem permitted_of_valid {template : Value}
    (h : OnValues.problem? (.mapping entries) template = .ok none) :
    Permitted (entries.map Prod.fst) (parse (OnValues.templateText template)) := by
  cases template with
  | text t =>
    obtain ⟨verdict, hverdict, haccepted⟩ := verdict_of_problem? entries t
    rw [problem?_text, hverdict] at h
    obtain rfl : verdict = none := Except.ok.inj h
    exact accepted_iff.mp haccepted
  | null => exact accepted_iff.mp .nil
  | truth b | whole n | real x | list items | mapping entries' => cases h

private theorem exists_unknown {template : Value} {names : List Text}
    (h : OnValues.problem? (.mapping entries) template = .ok (some (.unknownPlaceholders names))) :
    ∃ token ∈ tokens (parse (OnValues.templateText template)),
      token.name ∉ entries.map Prod.fst := by
  cases template with
  | text t =>
    rw [problem?_text] at h
    cases hstray : strayBrace? (parse t) with
    | some literal =>
      rw [problem?, hstray] at h
      cases h
    | none =>
      rw [problem?_of_clean hstray] at h
      split_ifs at h with hnames
      · exact exists_token_of_unknown hnames
      · cases h
      · cases h
  | null | truth b | whole n | real x | list items | mapping entries' => cases h

end

/-- Processing a template that validation accepts reports nothing and adds no brace. Processing one
that is rejected for a name or for a modifier reports something where the record is complete. -/
theorem validation_predicts_processing (entries fields : List (Text × Value)) (handler : Text)
    (template : Value) (hmap : NullFree entries) (hrecord : ShortTexts fields) :
    (Operation.run ⟨.mapping entries, .text handler⟩ (.validate template) = pure (.validity none) →
      Quiet entries fields handler (OnValues.templateText template)
        (Operation.run ⟨.mapping entries, .text handler⟩ (.process template (.mapping fields)))) ∧
    (RejectedByName ⟨.mapping entries, .text handler⟩ template → Complete entries fields →
      (Operation.run ⟨.mapping entries, .text handler⟩
        (.process template (.mapping fields))).log ≠ []) := by
  rw [Operation.run_process, Operation.run_validate_eq]
  constructor
  · intro hvalid
    obtain ⟨outcome, hprocess, houtcome⟩ :=
      process_accepted hmap hrecord (permitted_of_valid hvalid)
    rw [hprocess]
    refine ⟨by rw [Logged.map_log, Operation.ofReported_log], ?_⟩
    rcases houtcome with ⟨out, rfl, hbrace⟩ | ⟨token, hin, fault, hnowhere, rfl⟩
    · exact .inl ⟨out, rfl, hbrace⟩
    · exact .inr ⟨token, hin, fault, hnowhere, rfl⟩
  · intro hrejected hcomplete
    rw [Logged.map_log, Operation.ofReported_log]
    rcases hrejected with ⟨names, hnames⟩ | ⟨-, -, token, hin, hmisnamed⟩
    · obtain ⟨token, hin, hunknown⟩ := exists_unknown (Operation.run_validate_eq.mp hnames)
      exact process_rejected hmap hrecord hcomplete hin (.inl hunknown)
    · exact process_rejected hmap hrecord hcomplete hin (.inr hmisnamed)

/-- A record of one given name: a valid template, a name without a field and a wrong modifier. -/
theorem given_name_processed_as_predicted :
    Quiet [("GIVEN".toList, .text "given".toList)] [("given".toList, .text "ann".toList)] []
        "{GIVEN:upper}".toList
        (Operation.run ⟨.mapping [("GIVEN".toList, .text "given".toList)], .text []⟩
          (.process (.text "{GIVEN:upper}".toList)
            (.mapping [("given".toList, .text "ann".toList)]))) ∧
      (Operation.run ⟨.mapping [("GIVEN".toList, .text "given".toList)], .text []⟩
        (.process (.text "{AGE}".toList)
          (.mapping [("given".toList, .text "ann".toList)]))).log ≠ [] ∧
      (Operation.run ⟨.mapping [("GIVEN".toList, .text "given".toList)], .text []⟩
        (.process (.text "{GIVEN:shout}".toList)
          (.mapping [("given".toList, .text "ann".toList)]))).log ≠ [] := by
  have hmap : NullFree [("GIVEN".toList, .text "given".toList)] := by
    rintro name field hin rfl
    simp at hin
  have hrecord : ShortTexts [("given".toList, .text "ann".toList)] := by
    rintro name value hin
    obtain ⟨-, rfl⟩ := Prod.mk.inj (List.mem_singleton.mp hin)
    exact .inr ⟨_, rfl, by decide⟩
  have hcomplete : Complete [("GIVEN".toList, .text "given".toList)]
      [("given".toList, .text "ann".toList)] := by
    rintro name field hin
    obtain ⟨-, rfl⟩ := Prod.mk.inj (List.mem_singleton.mp hin)
    exact ⟨.text "ann".toList, rfl, by simp, by simp⟩
  refine ⟨?_, ?_, ?_⟩
  · refine (validation_predicts_processing _ _ [] (.text _) hmap hrecord).1 ?_
    exact Operation.run_validate_eq.mpr (by decide +kernel)
  · refine (validation_predicts_processing _ _ [] (.text _) hmap hrecord).2 (.inl ?_) hcomplete
    exact ⟨["AGE".toList], Operation.run_validate_eq.mpr (by decide +kernel)⟩
  · refine (validation_predicts_processing _ _ [] (.text _) hmap hrecord).2 (.inr ?_) hcomplete
    refine ⟨["shout".toList], Operation.run_validate_eq.mpr (by decide +kernel), ?_⟩
    refine ⟨⟨"GIVEN".toList, some "shout".toList⟩, by decide +kernel, "shout".toList, rfl, ?_⟩
    exact ⟨"shout".toList, ⟨by decide, .inl rfl⟩, by decide, by decide +kernel⟩

end FilingName.Template
