import FilingName.Proofs.Reporter
import FilingName.Proofs.Template.Composition
import Mathlib.Data.List.ReduceOption

/-! Diagnostics of a template. Every token has its say, once and in its turn, and there is nothing
else that processing reports. All of it is written in letters, so that the console shows it as it is
and what is returned does not depend on who is told. -/
namespace FilingName.Template
open Text (IsLastPiece)

/-- What a token reports: a name that stands for no field, or that the last modifier does not exist,
if there is one and the field has a value. The modifiers before the last do not count. -/
inductive Reports (entries fields : List (Text × Value)) (token : Token) : Option Diagnostic → Prop
  | unknownPlaceholder : (Value.mapping entries).lookUp (.text token.name) = .ok .null →
      Reports entries fields token (some (.unknownPlaceholder token.name))
  | unknownModifier {field value : Value} {chain last : Text} :
      (Value.mapping entries).lookUp (.text token.name) = .ok field → field ≠ .null →
      (Value.mapping fields).lookUp field = .ok value → value ≠ .null → value ≠ .text [] →
      chain ∈ token.chain → IsLastPiece ':' chain last → last ≠ [] →
      Text.lower last ∉ modifierNames →
      Reports entries fields token (some (.unknownModifier last))
  | nothing {field value : Value} :
      (Value.mapping entries).lookUp (.text token.name) = .ok field → field ≠ .null →
      (Value.mapping fields).lookUp field = .ok value →
      value = .null ∨ value = .text [] ∨ ¬ token.Misnamed →
      Reports entries fields token none

/-- The log of processing a template has what its tokens report, in their order. A token that leads
nowhere ends it. -/
inductive ReportsInTurn (entries fields : List (Text × Value)) (t : Text) : Reported Text → Prop
  | written {said : List (Option Diagnostic)} {out : Text} :
      List.Forall₂ (Reports entries fields) (tokens (parse t)) said →
      ReportsInTurn entries fields t ⟨said.reduceOption, .ok out⟩
  | fault {before after : List Token} {token : Token} {said : List (Option Diagnostic)}
      {fault : ValueFault} :
      tokens (parse t) = before ++ token :: after →
      List.Forall₂ (Reports entries fields) before said → LeadsNowhere entries token fault →
      ReportsInTurn entries fields t ⟨said.reduceOption, .error fault⟩

/-- Processing with a reporter that is told of each token as it is reached. -/
def Engine.processWith {σ : Type} (engine : Engine) (reporter : Reporter σ) (t : Text)
    (record : Value) : ExceptT Failure (StateM σ) Text := do
  let parts ← (parse t).mapM fun segment => reporter.follow (engine.part record segment)
  reporter.follow (liftM (joinFrom 0 parts))

private theorem Engine.processWith_eq {σ : Type} (engine : Engine) (reporter : Reporter σ)
    (t : Text) (record : Value) :
    engine.processWith reporter t record = reporter.follow (engine.process t record) := by
  rw [process, Reporter.follow_bind, Reporter.follow_mapM]
  rfl

variable {entries fields : List (Text × Value)} {handler t : Text} {token : Token}

private theorem Reports.not_none {diagnostic : Diagnostic}
    (h : Reports entries fields token (some diagnostic)) : ¬ Reports entries fields token none := by
  intro hnone
  cases hnone with
  | nothing hfield hne hvalue hquiet =>
    cases h with
    | unknownPlaceholder hunknown => exact hne (Except.ok.inj (hfield.symm.trans hunknown))
    | unknownModifier hfield' _ hvalue' hnull hblank hchain hlast hnamed hunknown =>
      cases hfield.symm.trans hfield'
      cases hvalue.symm.trans hvalue'
      rcases hquiet with rfl | rfl | hmisnamed
      · exact hnull rfl
      · exact hblank rfl
      · exact hmisnamed ⟨_, hchain, _, hlast, hnamed, hunknown⟩

/-- A token has one thing to say, if any. -/
private theorem Reports.unique {said other : Option Diagnostic}
    (h : Reports entries fields token said)
    (hother : Reports entries fields token other) : said = other := by
  rcases said with _ | diagnostic <;> rcases other with _ | otherDiagnostic
  · rfl
  · exact absurd h hother.not_none
  · exact absurd hother h.not_none
  · cases h with
    | unknownPlaceholder hunknown =>
      cases hother with
      | unknownPlaceholder _ => rfl
      | unknownModifier hfield hne =>
        exact absurd (Except.ok.inj (hfield.symm.trans hunknown)) hne
    | unknownModifier hfield hne _ _ _ hchain hlast _ _ =>
      cases hother with
      | unknownPlaceholder hunknown =>
        exact absurd (Except.ok.inj (hfield.symm.trans hunknown)) hne
      | unknownModifier _ _ _ _ _ hchain' hlast' _ _ =>
        rw [← Token.modifier_eq hchain hlast, Token.modifier_eq hchain' hlast']

/-- Whatever a token reports is written in letters. -/
private theorem Reports.lettered {diagnostic : Diagnostic}
    (h : Reports entries fields token (some diagnostic)) (htoken : token.WellFormed) :
    diagnostic.Lettered := by
  cases h with
  | unknownPlaceholder _ => exact htoken.letters_name
  | unknownModifier _ _ _ _ _ hchain hlast _ _ =>
    exact Token.modifier_eq hchain hlast ▸ htoken.letters_modifier

/-- Where a token is resolved, it has reported what it had to. -/
private theorem reports_of_resolve (hrecord : ShortTexts fields) {resolution : Resolution}
    (h : (Engine.resolve ⟨.mapping entries, .text handler⟩ (.mapping fields) token).outcome =
      .ok resolution) :
    ∃ said, Reports entries fields token said ∧
      (Engine.resolve ⟨.mapping entries, .text handler⟩ (.mapping fields) token).log =
        said.toList := by
  cases Engine.resolves_of_resolve h with
  | unknown hunknown =>
    exact ⟨_, .unknownPlaceholder hunknown, by rw [Engine.resolve_unknown hunknown]; rfl⟩
  | missing hfield hne hvalue hmissing =>
    refine ⟨none, .nothing hfield hne hvalue ?_, ?_⟩
    · exact (Value.isMissing_iff.mp hmissing).imp_right .inl
    · rw [Engine.resolve_missing hfield hne hvalue hmissing]
      rfl
  | found hfield hne hvalue hpresent _ _ =>
    obtain ⟨_, _, formatted, -, hformatted, -, hresolve⟩ :=
      resolve_present hrecord hfield hne hvalue hpresent
    rw [hresolve]
    by_cases hmisnamed : token.Misnamed
    · have hvalued := hpresent
      rw [← Bool.not_eq_true, Value.isMissing_iff, not_or] at hvalued
      obtain ⟨chain, hchain, last, hlast, hnamed, hunknown⟩ := hmisnamed
      exact ⟨_, .unknownModifier hfield hne hvalue hvalued.1 hvalued.2 hchain hlast hnamed hunknown,
        modify_log_of_unknown hchain hlast hnamed hunknown hformatted⟩
    · exact ⟨none, .nothing hfield hne hvalue (.inr (.inr hmisnamed)),
        modify_log_of_not_misnamed hmisnamed formatted⟩

/-- A row of tokens that are resolved reports what each of them has to. -/
private theorem exists_reports (hrecord : ShortTexts fields) {row : List Token}
    (h : ∀ token ∈ row, ∃ resolution,
      (Engine.resolve ⟨.mapping entries, .text handler⟩ (.mapping fields) token).outcome =
        .ok resolution) :
    ∃ said, List.Forall₂ (Reports entries fields) row said ∧
      (row.flatMap fun token =>
        (Engine.resolve ⟨.mapping entries, .text handler⟩ (.mapping fields) token).log) =
          said.reduceOption := by
  induction row with
  | nil => exact ⟨[], .nil, rfl⟩
  | cons token row ih =>
    rw [List.forall_mem_cons] at h
    obtain ⟨resolution, hresolution⟩ := h.1
    obtain ⟨first, hfirst, hlog⟩ := reports_of_resolve hrecord hresolution
    obtain ⟨said, hsaid, hrest⟩ := ih h.2
    refine ⟨first :: said, .cons hfirst hsaid, ?_⟩
    rw [List.flatMap_cons, hlog, hrest]
    cases first with
    | none => rw [List.reduceOption_cons_of_none]; rfl
    | some diagnostic => rw [List.reduceOption_cons_of_some]; rfl

private theorem reportsInTurn_process (handler : Text) (hrecord : ShortTexts fields) (t : Text) :
    ReportsInTurn entries fields t
      (Engine.process ⟨.mapping entries, .text handler⟩ t (.mapping fields)) := by
  rcases Engine.resolved_or_fault ⟨.mapping entries, .text handler⟩ (.mapping fields) t with
    hall | ⟨before, token, after, fault, hsplit, hbefore, hfault, hprocess⟩
  · obtain ⟨said, hsaid, hlog⟩ := exists_reports hrecord hall
    have hfinals : ∀ token ∈ tokens (parse t), ∃ (final : Text) (resolution : Resolution),
        (Engine.resolve ⟨.mapping entries, .text handler⟩ (.mapping fields) token).outcome =
          .ok resolution ∧ resolution.final = .text final := by
      intro token hin
      obtain ⟨resolution, hresolution⟩ := hall token hin
      exact ⟨_, resolution, hresolution, Engine.final_eq_of_resolve rfl hresolution⟩
    choose! final hresolved using hfinals
    have hprocess : Engine.process ⟨.mapping entries, .text handler⟩ t (.mapping fields) =
        ⟨said.reduceOption, .ok ((parse t).flatMap (Segment.filled final))⟩ :=
      Logged.ext ((Engine.process_log_of_resolved hall).trans hlog)
        (Engine.process_outcome_of_resolved hresolved)
    exact hprocess ▸ .written hsaid
  · obtain ⟨said, hsaid, hlog⟩ := exists_reports hrecord hbefore
    rcases resolve_of_shortTexts handler hrecord token with
      ⟨log, resolution, hresolve⟩ | ⟨fault', hnowhere, hresolve⟩
    · rw [hresolve] at hfault
      cases hfault
    · rw [hresolve] at hfault hprocess
      cases hfault
      rw [hprocess, hlog, List.append_nil]
      exact .fault hsplit hsaid hnowhere

private theorem lettered_of_reports {row : List Token} {said : List (Option Diagnostic)}
    (h : List.Forall₂ (Reports entries fields) row said) (hrow : ∀ token ∈ row, token.WellFormed) :
    ∀ diagnostic ∈ said.reduceOption, diagnostic.Lettered := by
  induction h with
  | nil => exact List.forall_mem_nil _
  | @cons token first row said hfirst _ ih =>
    rw [List.forall_mem_cons] at hrow
    cases first with
    | none =>
      rw [List.reduceOption_cons_of_none]
      exact ih hrow.2
    | some diagnostic =>
      rw [List.reduceOption_cons_of_some]
      exact List.forall_mem_cons.mpr ⟨hfirst.lettered hrow.1, ih hrow.2⟩

/-- All that processing reports is written in letters. -/
private theorem ReportsInTurn.lettered {work : Reported Text}
    (h : ReportsInTurn entries fields t work) : ∀ diagnostic ∈ work.log, diagnostic.Lettered := by
  have htokens : ∀ token ∈ tokens (parse t), token.WellFormed := fun token hin =>
    (splits_parse t).wellFormed token (mem_tokens.mp hin)
  cases h with
  | written hsaid => exact lettered_of_reports hsaid htokens
  | fault hsplit hsaid _ =>
    rw [hsplit, List.forall_mem_append] at htokens
    exact lettered_of_reports hsaid htokens.1

private theorem processWith_console (engine : Engine) (record : Value)
    (h : ∀ diagnostic ∈ (engine.process t record).log, diagnostic.Lettered)
    (printed : List Display.Printed) :
    ∃ lines, engine.processWith .console t record printed =
        ((engine.process t record).outcome.mapError .value, printed ++ lines) ∧
      Display.results lines = [] ∧
      Display.messages lines = Console.unlines ((engine.process t record).log.map
        fun diagnostic => "Warning: ".toList ++ diagnostic.message) := by
  obtain ⟨lines, hheard, hshown⟩ := Reporter.console_hear_lettered h printed
  exact ⟨lines, by rw [Engine.processWith_eq, Reporter.follow_eq, hheard], hshown⟩

/-- Every token reports that its name stands for no field, or that the last modifier does not exist
which a field with a value is written with, and nothing else is ever reported. Messages have nothing
but letters behind their fixed beginnings. The console shows them as they are, and what is returned
is the same with it as with every reporter that takes them. -/
theorem diagnostics_follow_tokens (entries fields : List (Text × Value)) (handler t : Text)
    (hrecord : ShortTexts fields) :
    let engine : Engine := ⟨.mapping entries, .text handler⟩
    let record := Value.mapping fields
    let work := engine.process t record
    ReportsInTurn entries fields t work ∧
      (∀ token said other, Reports entries fields token said →
        Reports entries fields token other → said = other) ∧
      (∀ diagnostic ∈ work.log, ∃ letters, (∀ c ∈ letters, isLetter c) ∧
        (diagnostic.message = "Unknown placeholder: ".toList ++ letters ∨
          diagnostic.message = "Unknown modifier: ".toList ++ letters)) ∧
      (∀ printed, ∃ lines,
        engine.processWith .console t record printed =
            (work.outcome.mapError .value, printed ++ lines) ∧
          Display.results lines = [] ∧
          Display.messages lines = Console.unlines
            (work.log.map fun diagnostic => "Warning: ".toList ++ diagnostic.message)) ∧
      ∀ (σ : Type) (reporter : Reporter σ) (state : σ),
        reporter.Ends state work (engine.processWith reporter t record state) := by
  intro engine record work
  have hturn : ReportsInTurn entries fields t work := reportsInTurn_process handler hrecord t
  refine ⟨hturn, fun _ _ _ => Reports.unique, fun diagnostic hin => ?_, ?_, ?_⟩
  · have hletters := hturn.lettered diagnostic hin
    cases diagnostic with
    | unknownPlaceholder name => exact ⟨name, hletters, .inl rfl⟩
    | unknownModifier modifier => exact ⟨modifier, hletters, .inr rfl⟩
  · exact processWith_console engine record hturn.lettered
  · intro σ reporter state
    rw [Engine.processWith_eq]
    exact Reporter.ends_follow reporter state work

/-- An age that no field has, and a modifier that does not exist: of the given name it is reported
where it comes last, and of the surname, which is missing, it is not. -/
theorem age_and_shout_reported :
    let engine : Engine := ⟨.mapping [("GIVEN".toList, .text "given".toList),
      ("SURNAME".toList, .text "surname".toList)], .text ['x']⟩
    let record := Value.mapping [("given".toList, .text "ann".toList), ("surname".toList, .null)]
    ∃ lines, engine.processWith .console
        "{AGE} {GIVEN:Shout} {GIVEN:shout:upper} {SURNAME:shout}".toList record [] =
          (.ok "{AGE} ann ANN x".toList, lines) ∧
      Display.messages lines =
        "Warning: Unknown placeholder: AGE\nWarning: Unknown modifier: Shout\n".toList := by
  intro engine record
  have hrecord : ShortTexts [("given".toList, .text "ann".toList), ("surname".toList, .null)] := by
    rintro name value hin
    simp only [List.mem_cons, Prod.mk.injEq, List.not_mem_nil, or_false] at hin
    rcases hin with ⟨-, rfl⟩ | ⟨-, rfl⟩
    · exact .inr ⟨_, rfl, by decide⟩
    · exact .inl rfl
  have hprocess : engine.process
      "{AGE} {GIVEN:Shout} {GIVEN:shout:upper} {SURNAME:shout}".toList record =
        ⟨[.unknownPlaceholder "AGE".toList, .unknownModifier "Shout".toList],
          .ok "{AGE} ann ANN x".toList⟩ :=
    Logged.ext (by decide +kernel) (by decide +kernel)
  obtain ⟨-, -, -, hconsole, -⟩ := diagnostics_follow_tokens
    [("GIVEN".toList, .text "given".toList), ("SURNAME".toList, .text "surname".toList)] _ ['x']
    "{AGE} {GIVEN:Shout} {GIVEN:shout:upper} {SURNAME:shout}".toList hrecord
  obtain ⟨lines, hrun, -, hmessages⟩ := hconsole []
  rw [hprocess] at hrun hmessages
  exact ⟨lines, hrun, hmessages⟩

end FilingName.Template
